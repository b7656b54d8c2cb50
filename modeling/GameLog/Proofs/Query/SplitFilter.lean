import GameLog.Proofs.Query.FilterToken
import GameLog.Proofs.Query.Moving
import GameLog.Proofs.Query.Pieces

/-!
# Filters that are split at their operator

The filters of a command are taken out of its tokens before split operators are put back to their operands.
So a filter that is written with its operator or its number apart is none: its parts are left for the
queries, which put them together again and read a term on rows. The rest of the command is read as before.

Main statements:
* `rejoinBehind_append_tokens`: a term is put back wherever it stands among the tokens;
* `FilterToken.read_split`: a split filter changes nothing else of the words of a command;
* `FilterToken.Parts.unworded_ofWords`: its parts ask for the same queries as the whole token as a term;
* `split_filter_is_term`: the group of a command with a split filter.
-/

namespace GameLog

open GameLog.Text

/-! ## Putting a split token back -/

namespace SpelledTerm

variable {t : SpelledTerm}

/-- **A term is put back wherever it stands**: behind any tokens it is put together as if it had been written
as one. Only if its value alone is apart, the token in front may not wait for an operand. -/
theorem rejoinBehind_append_tokens (hname : PlainEnds t.name) (hop : isOperator t.operator = true)
    (hend : endsWithOperator t.text = false) (spelling : Spelling) (behind : List String)
    {tokens : List String}
    (halone : spelling = .valueApart → ∀ token ∈ tokens.getLast?, StandsAlone token)
    (done : List String) :
    rejoinBehind done (tokens ++ (t.tokens spelling ++ behind)) =
      rejoinBehind done (tokens ++ t.text :: behind) := by
  have hback : ∀ done, rejoinBehind done (t.tokens spelling ++ behind) =
      rejoinBehind done (t.text :: behind) := fun done =>
    (rejoinBehind_of_plainEnds hname hop hend spelling done behind).trans
      (rejoinBehind_of_plainEnds hname hop hend .whole done behind).symm
  -- what takes in the name waits no longer, and the operator joins its value to it
  have hjoined : ∀ front done, rejoinBehind ((front ++ t.name) :: done) (t.operator :: t.value :: behind) =
      rejoinBehind ((front ++ t.text) :: done) behind := by
    intro front done
    rw [rejoinBehind_operator hop, text]
    simp only [String.append_assoc]
  have hlater : ∀ {first next : String} {rest : List String},
      (spelling = .valueApart → ∀ token ∈ (first :: next :: rest).getLast?, StandsAlone token) →
        spelling = .valueApart → ∀ token ∈ rest.getLast?, StandsAlone token := by
    intro first next rest halone hspelling token htoken
    refine halone hspelling token ?_
    cases rest with
    | nil => cases htoken
    | cons r rest => simpa using htoken
  fun_induction rejoinBehind done tokens with
  | case1 done => exact hback done
  | case2 token last before hoperator =>
    cases spelling with
    | whole => rfl
    | valueApart =>
      have hnone := (halone rfl token rfl).1
      rw [hoperator] at hnone
      cases hnone
    | allApart =>
      change rejoinBehind (last :: before) (token :: t.name :: t.operator :: t.value :: behind) =
        rejoinBehind (last :: before) (token :: t.text :: behind)
      rw [rejoinBehind_operator hoperator, rejoinBehind_operator hoperator, hjoined]
  | case3 token last before next rest hoperator ih =>
    rw [List.cons_append, List.cons_append, List.cons_append, List.cons_append,
      rejoinBehind_operator hoperator, rejoinBehind_operator hoperator]
    exact ih (hlater halone)
  | case4 token done hword =>
    cases spelling with
    | whole => rfl
    | valueApart =>
      have hends := (halone rfl token rfl).2
      change rejoinBehind done (token :: (t.name ++ t.operator) :: t.value :: behind) =
        rejoinBehind done (token :: t.text :: behind)
      rw [rejoinBehind_step hword, rejoinBehind_step hword, hends, if_neg Bool.false_ne_true,
        if_neg Bool.false_ne_true]
      exact hback (token :: done)
    | allApart =>
      change rejoinBehind done (token :: t.name :: t.operator :: t.value :: behind) =
        rejoinBehind done (token :: t.text :: behind)
      rw [rejoinBehind_step hword, rejoinBehind_step hword]
      split
      · exact hjoined token done
      · exact hback (token :: done)
  | case5 token done next rest hends hword ih =>
    rw [List.cons_append, List.cons_append, List.cons_append, List.cons_append,
      rejoinBehind_step hword, rejoinBehind_step hword, if_pos hends, if_pos hends]
    exact ih (hlater halone)
  | case6 token done next rest hends hword ih =>
    rw [List.cons_append, List.cons_append, List.cons_append, List.cons_append,
      rejoinBehind_step hword, rejoinBehind_step hword, if_neg hends, if_neg hends]
    exact ih fun hspelling token htoken => halone hspelling token (by simpa using htoken)

end SpelledTerm

/-! ## The words of one query -/

theorem unclaused_eq_self {tokens : List String} (h : ∀ token ∈ tokens, Unclaimed token) :
    unclaused tokens = tokens := by
  simp only [unclaused, takeAll, List.filter_filter]
  refine List.filter_eq_self.mpr fun token htoken => ?_
  rw [(h token htoken).group, (h token htoken).random]
  rfl

theorem filter_around {kind : String → Bool} {before middle after : List String}
    (h : ∀ token ∈ middle, kind token = false) :
    (before ++ (middle ++ after)).filter kind = before.filter kind ++ after.filter kind := by
  have hnone : middle.filter kind = [] :=
    List.filter_eq_nil_iff.mpr fun token htoken => by simp [h token htoken]
  rw [List.filter_append, List.filter_append, hnone, List.nil_append]

namespace FilterToken.Parts

variable {t : SpelledTerm} {f : RowFilter}

/-- **A query has the same words** whether a filter among its tokens is split or not. -/
theorem read_eq (h : Parts t f) (c : Catalog) (context : Context) (defaultName : String)
    {spelling : Spelling} {before : List String} (after : List String)
    (halone : spelling = .valueApart → ∀ token ∈ before, StandsAlone token) :
    QueryWords.read c context defaultName (before ++ (t.tokens spelling ++ after)) =
      QueryWords.read c context defaultName (before ++ t.text :: after) := by
  have hsplit : ∀ token ∈ t.tokens spelling, Unclaimed token := fun token => h.unclaimed
  have hwhole : ∀ token ∈ [t.text], Unclaimed token := h.unclaimed_whole
  have hmarkers : (before ++ (t.tokens spelling ++ after)).filter isRandomMarker =
      (before ++ ([t.text] ++ after)).filter isRandomMarker := by
    rw [filter_around fun token htoken => (hsplit token htoken).random,
      filter_around fun token htoken => (hwhole token htoken).random]
  have hclauses : (takeAll isGroupClause
      (takeAll isRandomMarker (before ++ (t.tokens spelling ++ after))).2).1 =
        (takeAll isGroupClause (takeAll isRandomMarker (before ++ ([t.text] ++ after))).2).1 := by
    simp only [takeAll, List.filter_filter]
    rw [filter_around fun token htoken => by rw [(hsplit token htoken).group, Bool.false_and],
      filter_around fun token htoken => by rw [(hwhole token htoken).group, Bool.false_and]]
  have hbare : bareTokens (before ++ (t.tokens spelling ++ after)) =
      bareTokens (before ++ ([t.text] ++ after)) := by
    unfold bareTokens
    rw [unclaused_append, unclaused_append, unclaused_append, unclaused_append,
      unclaused_eq_self hsplit, unclaused_eq_self hwhole]
    refine SpelledTerm.rejoinBehind_append_tokens h.name.plainEnds h.isOperator
      h.endsWithOperator_text spelling _ (fun hspelling token htoken => ?_) []
    have hmem := List.mem_of_getLast? htoken
    exact halone hspelling token (List.mem_of_mem_filter (List.mem_of_mem_filter hmem))
  rw [← List.singleton_append, QueryWords.read_eq, QueryWords.read_eq]
  unfold rowSortTokens gameTokens
  rw [hmarkers, hclauses, hbare]

end FilterToken.Parts

/-! ## Commands -/

theorem any_isGroupClause_of_unclaimed {tokens : List String} (h : ∀ token ∈ tokens, Unclaimed token) :
    tokens.any isGroupClause = false :=
  List.any_eq_false.mpr fun token htoken => by simp [(h token htoken).group]

/-- The filters among tokens of a command with these extra columns. -/
def ownFilters (extra : ExtraList) (tokens : List String) : List RowFilter :=
  (unsorted tokens).filterMap (RowFilter.parse? extra)

/-- The tokens of a command with these extra columns that are left for its queries. -/
def ownTokens (extra : ExtraList) (tokens : List String) : List String :=
  tokens.filter fun token => !isShared extra token

/-- The words of a command with other tokens in place of one: those tokens are left for its queries. -/
def CommandWords.withTokens (w : CommandWords) (before middle after : List String) : CommandWords :=
  { w with
    filters := ownFilters w.extra before ++ ownFilters w.extra after
    tokens := ownTokens w.extra before ++ (middle ++ ownTokens w.extra after) }

section Commands

variable {s : Scope} {before middle after : List String}

theorem clauses_of_unclaimed (h : ∀ token ∈ middle, Unclaimed token) :
    middle.filter isExtraClause = [] ∧ sortClauses middle = [] ∧ unsorted middle = middle := by
  have hextra : middle.filter isExtraClause = [] :=
    List.filter_eq_nil_iff.mpr fun token htoken => by simp [(h token htoken).extra]
  have hrest : middle.filter (fun token => !isExtraClause token) = middle :=
    List.filter_eq_self.mpr fun token htoken => by simp [(h token htoken).extra]
  simp only [sortClauses, unsorted, takeAll, hrest]
  exact ⟨hextra, List.filter_eq_nil_iff.mpr fun token htoken => by simp [(h token htoken).sort],
    List.filter_eq_self.mpr fun token htoken => by simp [(h token htoken).sort]⟩

/-- **Tokens that are no clauses are among the filters of a command or left for its queries**, where they
stand, and change nothing else of its words. -/
theorem CommandWords.read_of_unclaimed (h : ∀ token ∈ middle, Unclaimed token) :
    CommandWords.read s (before ++ (middle ++ after)) =
      readExtra s ((before ++ after).filter isExtraClause) >>= fun extra =>
        (sortClauses (before ++ after)).mapM (parseSorts extra) >>= fun sorts =>
          .ok ⟨extra, sorts.flatten,
            ownFilters extra before ++ (middle.filterMap (RowFilter.parse? extra) ++
              ownFilters extra after),
            ownTokens extra before ++
              ((middle.filter fun token => !(RowFilter.parse? extra token).isSome) ++
                ownTokens extra after)⟩ := by
  obtain ⟨hextra, hsorts, hrest⟩ := clauses_of_unclaimed h
  have hleft : ∀ extra, ownTokens extra middle =
      middle.filter fun token => !(RowFilter.parse? extra token).isSome := fun extra => by
    rw [ownTokens, ← filter_unsorted, hrest]
  rw [CommandWords.read_eq]
  simp only [filter_unsorted, List.filter_append, (clauses_append _ _).1, (clauses_append _ _).2,
    hextra, hsorts, hrest, List.filterMap_append, List.nil_append, ownFilters, ← hleft, ownTokens]

variable {t : SpelledTerm} {f : RowFilter}

theorem FilterToken.filters_of_read (h : FilterToken (askedExtra s (before ++ t.text :: after)) t f)
    {w : CommandWords} (hread : CommandWords.read s (before ++ t.text :: after) = .ok w) :
    w.filters = ownFilters w.extra before ++ f :: ownFilters w.extra after := by
  have hfrom := CommandWords.readFrom hread
  have hwhole : ∀ token ∈ [t.text], Unclaimed token := 
    (h.toParts (calledByShown_askedExtra _ _)).unclaimed_whole
  obtain ⟨-, -, hrest⟩ := clauses_of_unclaimed hwhole
  have hfilter := h.recognised
  rw [hfrom.askedExtra_eq] at hfilter
  rw [hfrom.filters, ← List.singleton_append, (clauses_append _ _).2, (clauses_append _ _).2, hrest]
  simp [ownFilters, hfilter]

/-- **The words of a command with a filter that is split** are those of the command, but for the filter,
whose parts are left for the queries. -/
theorem FilterToken.read_split (h : FilterToken (askedExtra s (before ++ t.text :: after)) t f)
    {spelling : Spelling} (hsplit : spelling ≠ .whole) :
    CommandWords.read s (before ++ (t.tokens spelling ++ after)) =
      (CommandWords.read s (before ++ t.text :: after)).map fun w =>
        w.withTokens before (t.tokens spelling) after := by
  have hparts := h.toParts (calledByShown_askedExtra _ _)
  have hpieces : ∀ token ∈ t.tokens spelling, Unclaimed token := fun token => hparts.unclaimed
  have hwhole : ∀ token ∈ [t.text], Unclaimed token := hparts.unclaimed_whole
  rw [← List.singleton_append, CommandWords.read_of_unclaimed hpieces,
    CommandWords.read_of_unclaimed hwhole]
  cases readExtra s ((before ++ after).filter isExtraClause) with
  | error e => rfl
  | ok extra =>
    dsimp only [bind, Except.bind]
    cases (sortClauses (before ++ after)).mapM (parseSorts extra) with
    | error e => rfl
    | ok sorts =>
      have hnone : (t.tokens spelling).filterMap (RowFilter.parse? extra) = [] :=
        List.filterMap_eq_nil_iff.mpr fun token => hparts.parse?_of_mem extra hsplit
      have hleft : ((t.tokens spelling).filter fun token =>
          !(RowFilter.parse? extra token).isSome) = t.tokens spelling :=
        List.filter_eq_self.mpr fun token htoken => by
          simp [hparts.parse?_of_mem extra hsplit htoken]
      refine congrArg Except.ok ?_
      rw [hnone, hleft, List.nil_append]
      rfl

/-- **Tokens that are no clauses are put in one fragment**: in the first one, which each query has, or in a
further one, which one query has. -/
theorem CommandWords.fragments_withTokens (w : CommandWords) (before after : List String) :
    (∃ front behind others, (∀ token ∈ front, token ∈ before) ∧
      ∀ {middle : List String}, (∀ token ∈ middle, Unclaimed token) →
        (w.withTokens before middle after).first = front ++ (middle ++ behind) ∧
          (w.withTokens before middle after).others = others) ∨
    ∃ first others last behind later, (∀ token ∈ first ++ last, token ∈ before) ∧
      ∀ {middle : List String}, (∀ token ∈ middle, Unclaimed token) →
        (w.withTokens before middle after).first = first ∧
          (w.withTokens before middle after).others =
            others ++ (last ++ (middle ++ behind)) :: later := by
  obtain ⟨behind, later, hplace⟩ : ∃ behind later, ∀ {middle : List String},
      (∀ token ∈ middle, Unclaimed token) →
        fragments (middle ++ ownTokens w.extra after) = (middle ++ behind, later) :=
    ⟨_, _, fun hmiddle => fragments_append_of_not_mem (fun hmem => (hmiddle _ hmem).slash rfl) _⟩
  rcases exists_fragments_append (ownTokens w.extra before) with hrest |
    ⟨first, others, last, hrest, hmem⟩
  · refine .inl ⟨ownTokens w.extra before, behind, later, fun token => List.mem_of_mem_filter,
      fun hmiddle => ?_⟩
    rw [CommandWords.first, CommandWords.others, CommandWords.withTokens, hrest, hplace hmiddle]
    exact ⟨rfl, rfl⟩
  · refine .inr ⟨first, others, last, behind, later,
      fun token htoken => List.mem_of_mem_filter (hmem token htoken), fun hmiddle => ?_⟩
    rw [CommandWords.first, CommandWords.others, CommandWords.withTokens, hrest, hplace hmiddle]
    exact ⟨rfl, rfl⟩

/-- **The words with the parts of a filter among their tokens ask for the same group** as those with the
whole token among them, but for the wording. -/
theorem FilterToken.Parts.unworded_ofWords (h : Parts t f) {c : Catalog} {context : Context}
    {defaultName : String} (tokens : List String) (w : CommandWords) {spelling : Spelling}
    (halone : spelling = .valueApart → ∀ token ∈ before, StandsAlone token) :
    (QueryGroup.ofWords c context defaultName tokens
      (w.withTokens before (t.tokens spelling) after)).map QueryGroup.unworded =
        (QueryGroup.ofWords c context defaultName tokens
          (w.withTokens before [t.text] after)).map QueryGroup.unworded := by
  have hpieces : ∀ token ∈ t.tokens spelling, Unclaimed token := fun token => h.unclaimed
  have hwhole : ∀ token ∈ [t.text], Unclaimed token := h.unclaimed_whole
  have hread : ∀ {front : List String} behind, (∀ token ∈ front, token ∈ before) →
      QueryWords.read c context defaultName (front ++ (t.tokens spelling ++ behind)) =
        QueryWords.read c context defaultName (front ++ ([t.text] ++ behind)) := fun behind hfront =>
    h.read_eq c context defaultName behind fun hspelling token htoken =>
      halone hspelling token (hfront token htoken)
  rcases w.fragments_withTokens before after with
    ⟨front, behind, others, hmem, hplaced⟩ | ⟨first, others, last, behind, later, hmem, hplaced⟩
  · obtain ⟨hfirst, hothers⟩ := hplaced hpieces
    obtain ⟨hfirst', hothers'⟩ := hplaced hwhole
    refine QueryGroup.unworded_ofWords tokens rfl rfl rfl ?_ ?_ ?_
    · rw [hfirst, hfirst']
      simp only [List.any_append, any_isGroupClause_of_unclaimed hpieces,
        any_isGroupClause_of_unclaimed hwhole]
    · rw [hfirst, hfirst']
      exact hread behind hmem
    · rw [hfirst, hfirst', hothers, hothers']
      refine List.forall₂_same.mpr fun fragment _ => ?_
      simp only [List.append_assoc]
      exact hread (behind ++ fragment) hmem
  · obtain ⟨hfirst, hothers⟩ := hplaced hpieces
    obtain ⟨hfirst', hothers'⟩ := hplaced hwhole
    have hsame : ∀ fragments, List.Forall₂ (fun fragment fragment' =>
        QueryWords.read c context defaultName (first ++ fragment) =
          QueryWords.read c context defaultName (first ++ fragment')) fragments fragments :=
      fun fragments => List.forall₂_same.mpr fun fragment _ => rfl
    have hboth := hread behind hmem
    simp only [List.append_assoc] at hboth
    refine QueryGroup.unworded_ofWords tokens rfl rfl rfl (by rw [hfirst, hfirst'])
      (by rw [hfirst, hfirst']) ?_
    rw [hfirst, hfirst', hothers, hothers']
    exact List.rel_append (hsame others) (.cons hboth (hsame later))

/-- **A filter that is split is a term.** Each command with a token that is a filter has the filter among
those of its group. With the token split at its operator the group has all filters but that one, and it asks
for the queries of the command whose words keep the whole token as a term on rows. -/
theorem split_filter_is_term (c : Catalog) (context : Context) (defaultName : String)
    (before after : List String) {t : SpelledTerm} {f : RowFilter}
    (h : FilterToken (askedExtra (defaultScope c context) (before ++ t.text :: after)) t f)
    {spelling : Spelling} (hsplit : spelling ≠ .whole) :
    (∀ {g}, QueryGroup.parse c context defaultName (before ++ t.text :: after) = .ok g →
      ∃ front behind, g.filters = front ++ f :: behind ∧
        ∀ {g'}, QueryGroup.parse c context defaultName (before ++ (t.tokens spelling ++ after)) = .ok g' →
          g'.filters = front ++ behind) ∧
    ((spelling = .valueApart → ∀ token ∈ before, StandsAlone token) →
      (QueryGroup.parse c context defaultName (before ++ (t.tokens spelling ++ after))).map
          QueryGroup.unworded =
        (CommandWords.read (defaultScope c context) (before ++ t.text :: after) >>= fun w =>
          QueryGroup.ofWords c context defaultName (before ++ (t.tokens spelling ++ after))
            (w.withTokens before [t.text] after)).map QueryGroup.unworded) := by
  refine ⟨fun {g} hg => ?_, fun halone => ?_⟩
  · obtain ⟨w, hw, hparsed⟩ := parse_eq_ok hg
    refine ⟨_, _, hparsed.filters.trans (h.filters_of_read hw), fun {g'} hg' => ?_⟩
    obtain ⟨w', hw', hparsed'⟩ := parse_eq_ok hg'
    rw [h.read_split hsplit, hw] at hw'
    obtain rfl := Except.ok.inj hw'
    exact hparsed'.filters
  · rw [QueryGroup.parse_eq_ofWords, h.read_split hsplit]
    cases CommandWords.read (defaultScope c context) (before ++ t.text :: after) with
    | error e => rfl
    | ok w => exact (h.toParts (calledByShown_askedExtra _ _)).unworded_ofWords _ w halone

end Commands

/-- A filter on the counts of gods, with its parts apart, keeps games by their turns instead, where `n` is
another name of the turns. -/
theorem split_count_filter_is_term :
    let c : Catalog := .assemble { builtinDocument with aliases := .ofList [("n", "turn")] }
    let t : SpelledTerm := ⟨"n", ">", "5"⟩
    let f : RowFilter := ⟨.count, .gt, .ofInt 5⟩
    FilterToken (askedExtra (defaultScope c .game) ["s=god", t.text]) t f ∧
      (∀ token ∈ ["s=god"], StandsAlone token) ∧
      ∃ w g g', CommandWords.read (defaultScope c .game) ["s=god", "n>5"] = .ok w ∧
        QueryGroup.parse c .game "*" ["s=god", "n>5"] = .ok g ∧
        QueryGroup.parse c .game "*" ["s=god", "n>", "5"] = .ok g' ∧
        g.filters = [f] ∧ g'.filters = [] ∧ g.primary.condition.comparisons = [] ∧
        g'.primary.condition.comparisons = [⟨⟨some "lg", "turn"⟩, .gt, .integer 5⟩] ∧
        .ok g'.unworded = (QueryGroup.ofWords c .game "*" ["s=god", "n>", "5"]
          (w.withTokens ["s=god"] ["n>5"] [])).map QueryGroup.unworded := by
  intro c t f
  have htoken : FilterToken (askedExtra (defaultScope c .game) ["s=god", t.text]) t f :=
    ⟨by decide +kernel, by decide +kernel⟩
  have halone : ∀ token ∈ ["s=god"], StandsAlone token := by
    unfold StandsAlone
    decide +kernel
  have hwhole : (QueryGroup.parse c .game "*" ["s=god", "n>5"]).toOption.map
      (fun g => (g.filters, g.primary.condition.comparisons)) = some ([f], []) := by decide +kernel
  have hsplit : (QueryGroup.parse c .game "*" ["s=god", "n>", "5"]).toOption.map
      (fun g => g.primary.condition.comparisons) =
        some [⟨⟨some "lg", "turn"⟩, .gt, .integer 5⟩] := by decide +kernel
  obtain ⟨g, hg, hseen⟩ := exists_ok_of_map hwhole
  obtain ⟨g', hg', hseen'⟩ := exists_ok_of_map hsplit
  obtain ⟨w, hw, -⟩ := parse_eq_ok hg
  have hapart : Spelling.valueApart ≠ .whole := by decide
  obtain ⟨hfilters, hterm⟩ := split_filter_is_term c .game "*" ["s=god"] [] htoken hapart
  have hfiltered : g.filters = [f] := congrArg Prod.fst hseen
  have hunfiltered : g'.filters = [] := by
    obtain ⟨front, behind, hwith, hwithout⟩ := hfilters hg
    rw [hfiltered] at hwith
    rw [hwithout hg']
    rcases List.singleton_eq_append_iff.mp hwith with ⟨rfl, hbehind⟩ | ⟨-, hnil⟩
    · exact (List.cons.inj hbehind).2
    · cases hnil
  have hread : (QueryGroup.parse c .game "*" ["s=god", "n>", "5"]).map QueryGroup.unworded =
      (CommandWords.read (defaultScope c .game) ["s=god", "n>5"] >>= fun w =>
        QueryGroup.ofWords c .game "*" ["s=god", "n>", "5"]
          (w.withTokens ["s=god"] ["n>5"] [])).map QueryGroup.unworded := hterm fun _ => halone
  rw [hg', hw] at hread
  exact ⟨htoken, halone, w, g, g', hw, hg, hg', hfiltered, hunfiltered, congrArg Prod.snd hseen,
    hseen', hread⟩

/-- **A filter that is split at its operator is no filter**: its parts are put back together behind the
filters, and the count of rows is no field of a game. -/
theorem split_filter_refused :
    (∃ g, QueryGroup.parse .builtin .game "*" ["s=god", "n>5"] = .ok g ∧
      g.filters = [⟨.count, .gt, .ofInt 5⟩]) ∧
    QueryGroup.parse .builtin .game "*" ["s=god", "n", ">", "5"] = .error (.unknownField "n") ∧
      QueryGroup.parse .builtin .game "*" ["s=god", "n>", "5"] = .error (.unknownField "n") := by
  have hwhole : (QueryGroup.parse .builtin .game "*" ["s=god", "n>5"]).toOption.map
      QueryGroup.filters = some [⟨.count, .gt, .ofInt 5⟩] := by decide +kernel
  exact ⟨exists_ok_of_map hwhole, by rfl, by rfl⟩

end GameLog
