import GameLog.Catalog.Builtin
import GameLog.Proofs.Query.Meaning
import GameLog.Proofs.Query.Variation

/-!
# Values stay out of the text

Commands that are variants of each other ask for the same statements. However the names of actors and the
values of terms are chosen, the texts of the statements are the same, letter by letter; the values for the
question marks are as many, and differ only where a token that was changed stands for them. So no value
can change what a statement does.

Both queries are the same once their values are left out (`blank_eq_of_build`), and their values are those
of their actors, their terms and their milestone types (`forall₂_values`).

Main statements:
* `sameBut_of_build`: queries of related tokens have the same statements but for values;
* `values_stay_out_of_text`: whole commands do.
-/

namespace GameLog

open GameLog.Text

/-! ## Terms -/

theorem blank_bind {column : Column} {comparator : Comparator} {kind : Kind} {raw clause : String}
    {c : Comparison} (h : Comparison.bind column comparator kind raw clause = .ok c) :
    c.blank = ⟨column, comparator, .null⟩ := by
  unfold Comparison.bind at h
  split at h
  · obtain rfl := Except.ok.inj h
    rfl
  · split at h
    · obtain rfl := Except.ok.inj h
      rfl
    · cases h

theorem exists_termParts?_of_readTerm {s : Scope} {token : String} {c : Comparison}
    (h : readTerm s token = .ok c) : ∃ parts, termParts? token = some parts := by
  unfold readTerm at h
  split at h
  · rename_i hparts
    exact ⟨_, hparts⟩
  · cases h

/-- Terms with the same name and comparator compare the same column. -/
theorem blank_readTerm {s : Scope} {t t' name value value' : String} {comparator : Comparator}
    {c c' : Comparison} (h : termParts? t = some (name, comparator, value))
    (h' : termParts? t' = some (name, comparator, value')) (hread : readTerm s t = .ok c)
    (hread' : readTerm s t' = .ok c') : c.blank = c'.blank := by
  unfold readTerm at hread hread'
  rw [h] at hread
  rw [h'] at hread'
  obtain ⟨field, hfield, hread⟩ := bind_eq_ok.mp hread
  obtain ⟨field', hfield', hread'⟩ := bind_eq_ok.mp hread'
  obtain rfl := Except.ok.inj (hfield.symm.trans hfield')
  obtain ⟨column, hcolumn, hread⟩ := bind_eq_ok.mp hread
  obtain ⟨column', hcolumn', hread'⟩ := bind_eq_ok.mp hread'
  obtain rfl := Except.ok.inj (hcolumn.symm.trans hcolumn')
  rw [blank_bind hread, blank_bind hread']

/-- Variants mean the same but for their values. -/
theorem Variants.sameTerm {extra extra' : ExtraList} {t t' : String}
    (h : Variants extra extra' t t') (s : Scope) : SameTerm s t t' := by
  constructor
  · simp only [List.forall_mem_cons, List.not_mem_nil, false_imp_iff, implies_true, and_true]
    exact ⟨h.eq_word_iff (by decide : orToken.toList = ['|', '|']) (by decide),
      h.eq_word_iff (by decide : openToken.toList = ['(', '(']) (by decide),
      h.eq_word_iff (by decide : closeToken.toList = [')', ')']) (by decide)⟩
  · intro c c' hread hread'
    cases h with
    | same => rw [Except.ok.inj (hread.symm.trans hread')]
    | changed hform =>
      cases hform with
      | term hparts hparts' => exact blank_readTerm hparts hparts' hread hread'
      | actor hstarts =>
        obtain ⟨parts, hparts⟩ := exists_termParts?_of_readTerm hread
        have hactor := isActorToken_of_termParts? hparts
        rw [isActorToken, hstarts, Bool.or_true] at hactor
        cases hactor

/-! ## Both queries without values -/

/-- A query starts from its actor, of whom nothing is left without the name. -/
theorem Query.blank_start {s : Scope} {actor : Actor} {index : Int} {source : String} {q : Query}
    (h : Query.start s actor index source = .ok q) :
    ∃ column, s.column s.context.defaultSort = .ok column ∧
      q.blank = (Query.unjoined s .anyone 0 ""
        (.joined .and (((s.actorComparisons actor).map Comparison.blank).map .compare))
        column).checkJoins := by
  obtain ⟨column, hcolumn, -, rfl⟩ := exists_unjoined_of_start h
  refine ⟨column, hcolumn, ?_⟩
  refine (faithful_blank.see_checkJoins _).trans ?_
  refine congrArg (fun condition =>
    (unjoined s .anyone 0 "" (.joined .and condition) column).checkJoins) ?_
  rw [Condition.blankAll_eq_map, List.map_map, List.map_map]
  rfl

section Queries

variable {R : String → String → Prop} {extra extra' : ExtraList} {c : Catalog} {context : Context}
  {defaultName defaultName' : String} {tokens tokens' : List String} {w w' : QueryWords}
  {q q' : Query} {shown : ExtraList}

theorem ActorsAgree.blank_actorComparisons {actor actor' : Actor} (s : Scope)
    (h : ActorsAgree R defaultName defaultName' actor actor') :
    (s.actorComparisons actor).map Comparison.blank =
      (s.actorComparisons actor').map Comparison.blank := by
  cases h <;> rfl

/-- **Queries whose words agree are the same without their values**: each step of building keeps them
so. -/
theorem blank_eq_of_build (hR : KeepsTo extra extra' R)
    (hagree : WordsAgree R defaultName defaultName' w w')
    (hw : QueryWords.read c context defaultName tokens = .ok w)
    (hw' : QueryWords.read c context defaultName' tokens' = .ok w')
    (h : buildQuery c context defaultName shown tokens = .ok q)
    (h' : buildQuery c context defaultName' shown tokens' = .ok q') : q.blank = q'.blank := by
  obtain ⟨source, start, condition, hstart, hterms, hq⟩ := exists_start_of_build hw h
  obtain ⟨source', start', condition', hstart', hterms', hq'⟩ := exists_start_of_build hw' h'
  have hscope : w.scope c context = w'.scope c context :=
    congrArg (Scope.mk c context) hagree.game
  rw [← hscope] at hstart' hterms'
  have hstarted : start.blank = start'.blank := by
    obtain ⟨column, hcolumn, hblank⟩ := Query.blank_start hstart
    obtain ⟨column', hcolumn', hblank'⟩ := Query.blank_start hstart'
    obtain rfl := Except.ok.inj (hcolumn.symm.trans hcolumn')
    rw [hblank, hblank', hagree.actor.blank_actorComparisons]
  have hread : condition.blank = condition'.blank :=
    blank_readTermsIn (hagree.terms.imp fun t t' ht => (hR t t' ht).sameTerm _) rfl rfl hterms
      hterms'
  have hrandom : Query.blankView.random w.random = Query.blankView.random w'.random := rfl
  have hsame := Query.faithful_blank.see_complete shown hstarted hread hrandom hagree.rowSorts
    hagree.group
  rw [hq, hq'] at hsame
  exact Except.ok.inj hsame

end Queries

/-! ## Their values -/

/-- **How a value may differ** between commands with these pairs of tokens at the same places: not at
all, or as the name of the default actor, or as what is meant by a pair of tokens that are not the same,
which are actors or terms. -/
inductive MayDiffer (s : Scope) (defaultName defaultName' : String)
    (pairs : List (String × String)) : Cell → Cell → Prop
  | same (value : Cell) : MayDiffer s defaultName defaultName' pairs value value
  | default : MayDiffer s defaultName defaultName' pairs (.text defaultName) (.text defaultName')
  | actor {t t' name name' : String} (hpair : (t, t') ∈ pairs) (hne : t ≠ t')
      (h : Actor.read defaultName (some t) = .ok (.named name))
      (h' : Actor.read defaultName' (some t') = .ok (.named name')) :
      MayDiffer s defaultName defaultName' pairs (.text name) (.text name')
  | term {t t' : String} {c c' : Comparison} (hpair : (t, t') ∈ pairs) (hne : t ≠ t')
      (h : readTerm s t = .ok c) (h' : readTerm s t' = .ok c') :
      MayDiffer s defaultName defaultName' pairs c.value c'.value

/-- Two statements have the same text, and as many values, which are related one by one. -/
structure Statement.SameBut (r : Cell → Cell → Prop) (st st' : Statement) : Prop where
  text : st.text = st'.text
  params : List.Forall₂ r st.params st'.params

/-- **Two queries have the same statements but for values**: those that count, that read rows and that
read groups. If there is no statement that reads groups, both have none for the same reason. -/
structure Query.SameBut (r : Cell → Cell → Prop) (q q' : Query) : Prop where
  count : q.selectCount.SameBut r q'.selectCount
  rows : q.selectRows.SameBut r q'.selectRows
  groups : (∃ st st', q.selectGroups = .ok st ∧ q'.selectGroups = .ok st' ∧ st.SameBut r st') ∨
    ∃ e, q.selectGroups = .error e ∧ q'.selectGroups = .error e

section Values

variable {R : String → String → Prop} {extra extra' : ExtraList} {c : Catalog} {context : Context}
  {defaultName defaultName' : String} {tokens tokens' : List String}
  {q q' : Query} {shown : ExtraList} {pairs : List (String × String)} {s : Scope}

/-- The names of actors differ as their tokens do, or as the default names. -/
theorem ActorsAgree.values {actor actor' : Actor} (hR : ∀ t t', R t t' → (t, t') ∈ pairs)
    (h : ActorsAgree R defaultName defaultName' actor actor') :
    List.Forall₂ (MayDiffer s defaultName defaultName' pairs)
      ((s.actorComparisons actor).map Comparison.value)
      ((s.actorComparisons actor').map Comparison.value) := by
  cases h with
  | same => exact List.forall₂_same.mpr fun value _ => .same value
  | default => exact .cons .default .nil
  | @named t t' name name' ht hread hread' =>
    refine .cons ?_ .nil
    by_cases heq : t = t'
    · subst heq
      have hnamed : Actor.named name = .named name' := Except.ok.inj (hread.symm.trans hread')
      rw [Actor.named.inj hnamed]
      exact .same _
    · exact .actor (hR t t' ht) heq hread hread'

/-- The values of terms differ as their tokens do. -/
theorem forall₂_termValues {terms terms' : List String} (hR : ∀ t t', R t t' → (t, t') ∈ pairs)
    (h : List.Forall₂ R terms terms') (haccepted : ∀ token ∈ terms, s.accepts token = true)
    (haccepted' : ∀ token ∈ terms', s.accepts token = true) :
    List.Forall₂ (MayDiffer s defaultName defaultName' pairs)
      ((terms.map s.comparison).map Comparison.value)
      ((terms'.map s.comparison).map Comparison.value) := by
  induction h with
  | nil => exact .nil
  | @cons t t' _ _ ht _ ih =>
    obtain ⟨hterm, hrest⟩ := List.forall_mem_cons.mp haccepted
    obtain ⟨hterm', hrest'⟩ := List.forall_mem_cons.mp haccepted'
    refine .cons ?_ (ih hrest hrest')
    by_cases heq : t = t'
    · rw [heq]
      exact .same _
    · exact .term (hR t t' ht) heq (Scope.readTerm_of_accepts hterm)
        (Scope.readTerm_of_accepts hterm')

/-- **The values of queries whose words agree differ as their tokens do.** -/
theorem forall₂_values {w w' : QueryWords} {tree tree' : TermTree} (hkeeps : KeepsTo extra extra' R)
    (hR : ∀ t t', R t t' → (t, t') ∈ pairs) (hagree : WordsAgree R defaultName defaultName' w w')
    (h : q.BuiltFrom w s tree shown) (h' : q'.BuiltFrom w' s tree' shown) :
    List.Forall₂ (MayDiffer s defaultName defaultName' pairs) q.condition.values
      q'.condition.values := by
  have hword : ∀ t t', R t t' → isTermWord t = isTermWord t' := by
    intro t t' ht
    have hwords := ((hkeeps t t' ht).sameTerm s).1
    simp only [List.forall_mem_cons, List.not_mem_nil, false_imp_iff, implies_true, and_true]
      at hwords
    simp only [isTermWord, List.contains_cons, List.contains_nil, beq_eq_decide, hwords]
  have hterms : List.Forall₂ R (TermPart.treeTerms tree) (TermPart.treeTerms tree') := by
    rw [h.derives.terms_eq, h'.derives.terms_eq]
    exact forall₂_filter hagree.terms hword
  unfold Condition.values
  rw [h.means.comparisons_eq, h'.means.comparisons_eq, QueryWords.comparisons,
    QueryWords.comparisons, List.map_append, List.map_append, List.map_append, List.map_append,
    hagree.group]
  refine List.rel_append (List.rel_append (hagree.actor.values hR) ?_) ?_
  · exact forall₂_termValues hR hterms h.derives.accepts h'.derives.accepts
  · exact List.forall₂_same.mpr fun value _ => .same value

theorem params_selectGroups {st : Statement} (h : q.selectGroups = .ok st) :
    st.params = q.condition.values := by
  obtain ⟨columns, -, h⟩ := bind_eq_ok.mp h
  obtain rfl := Except.ok.inj h
  rfl

/-- Queries that are the same without their values have the same statements but for values. -/
theorem sameBut_of_blank_eq {r : Cell → Cell → Prop} (h : q.blank = q'.blank)
    (hvalues : List.Forall₂ r q.condition.values q'.condition.values) : q.SameBut r q' := by
  obtain ⟨hcount, hrows, hgroups⟩ := Query.text_eq_of_blank_eq h
  refine ⟨⟨hcount, hvalues⟩, ⟨hrows, hvalues⟩, ?_⟩
  cases hst : q.selectGroups with
  | error e =>
    cases hst' : q'.selectGroups with
    | error e' =>
      rw [hst, hst'] at hgroups
      exact .inr ⟨e, rfl, congrArg Except.error (Except.error.inj hgroups).symm⟩
    | ok st' =>
      rw [hst, hst'] at hgroups
      cases hgroups
  | ok st =>
    cases hst' : q'.selectGroups with
    | error e' =>
      rw [hst, hst'] at hgroups
      cases hgroups
    | ok st' =>
      rw [hst, hst'] at hgroups
      refine .inl ⟨st, st', rfl, rfl, Except.ok.inj hgroups, ?_⟩
      rw [params_selectGroups hst, params_selectGroups hst']
      exact hvalues

/-- **Queries of related tokens have the same statements but for values.** -/
theorem sameBut_of_build (hkeeps : KeepsTo extra extra' R) (hR : ∀ t t', R t t' → (t, t') ∈ pairs)
    (hdefault : defaultName = defaultName' ∨ NamesActor defaultName ∧ NamesActor defaultName')
    (htokens : List.Forall₂ R tokens tokens') (halone : ∀ token ∈ tokens, StandsAlone token)
    (halone' : ∀ token ∈ tokens', StandsAlone token)
    (hgame : SameFirst (fun token => (c.gameType? token).isSome) (gameTokens tokens)
      (gameTokens tokens'))
    (h : buildQuery c context defaultName shown tokens = .ok q)
    (h' : buildQuery c context defaultName' shown tokens' = .ok q') :
    q.SameBut (MayDiffer q.scope defaultName defaultName' pairs) q' := by
  obtain ⟨w, tree, hw, hbuilt⟩ := buildQuery_eq_ok h
  obtain ⟨w', tree', hw', hbuilt'⟩ := buildQuery_eq_ok h'
  have hagree := wordsAgree_of_read hkeeps hdefault htokens halone halone' hgame hw hw'
  have hscope : w.scope c context = w'.scope c context :=
    congrArg (Scope.mk c context) hagree.game
  rw [← hscope] at hbuilt'
  rw [hbuilt.scope]
  exact sameBut_of_blank_eq (blank_eq_of_build hkeeps hagree hw hw' h h')
    (forall₂_values hkeeps hR hagree hbuilt hbuilt')

end Values

/-! ## Whole commands -/

/-- **Two commands are variants of each other**: their tokens are so, one by one, no token is or ends in
an operator, and their queries take their game types from equal tokens, if they name any. -/
structure CommandVariants (c : Catalog) (w w' : CommandWords) (tokens tokens' : List String) :
    Prop where
  variants : List.Forall₂ (Variants w.extra w'.extra) tokens tokens'
  alone : ∀ token ∈ tokens ++ tokens', StandsAlone token
  game : List.Forall₂ (fun query query' => SameFirst (fun token => (c.gameType? token).isSome)
    (gameTokens query) (gameTokens query')) w.queryTokens w'.queryTokens

section Commands

variable {c : Catalog} {context : Context} {defaultName defaultName' : String}
  {tokens tokens' : List String} {w w' : CommandWords}

/-- The tokens of the queries of a command are tokens of the command. -/
theorem CommandWords.ReadFrom.mem_of_query {s : Scope} (hw : w.ReadFrom s tokens)
    {query : List String} (hquery : query ∈ w.queryTokens) : ∀ token ∈ query, token ∈ tokens := by
  have hleft : ∀ token ∈ w.tokens, token ∈ tokens := by
    intro token htoken
    rw [hw.tokens] at htoken
    exact (List.mem_filter.mp (List.mem_filter.mp (List.mem_filter.mp htoken).1).1).1
  obtain ⟨hfirst, hothers⟩ := mem_of_mem_fragments w.tokens
  have hfirst' : ∀ token ∈ w.first, token ∈ tokens :=
    fun token htoken => hleft token (hfirst token htoken).1
  rcases List.mem_cons.mp hquery with rfl | hquery
  · exact hfirst'
  · obtain ⟨fragment, hfragment, rfl⟩ := List.mem_map.mp hquery
    rw [List.forall_mem_append]
    exact ⟨hfirst', fun token htoken => hleft token (hothers fragment hfragment token htoken).1⟩

/-- Commands with related tokens show the same extra columns. -/
theorem sharedExtra_eq {R : String → String → Prop} {extra extra' : ExtraList} {s : Scope}
    (hR : KeepsTo extra extra' R) (hextra : w.extra = w'.extra)
    (h : List.Forall₂ R w.tokens w'.tokens) : w.sharedExtra s = w'.sharedExtra s := by
  obtain ⟨hfirst, hothers⟩ := forall₂_fragments hR h
  have hclauses : w.first.any isGroupClause = w'.first.any isGroupClause :=
    any_eq_of_forall₂ hfirst
      (sort_eq_of_eq (hR.eq_of_taken fun _ ht => isTaken_of_isGroupClause ht))
  have hempty : w.others.isEmpty = w'.others.isEmpty := by
    have hlength : w.others.length = w'.others.length := hothers.length_eq
    rw [Bool.eq_iff_iff, List.isEmpty_iff_length_eq_zero, List.isEmpty_iff_length_eq_zero, hlength]
  unfold CommandWords.sharedExtra ratioExtra
  rw [hempty, hextra, hclauses]

/-- Queries built one by one from related tokens have the same statements but for values. -/
theorem forall₂_sameBut {R : String → String → Prop} {extra extra' shown : ExtraList}
    {pairs : List (String × String)} {queries queries' : List (List String)} {qs qs' : List Query}
    (hkeeps : KeepsTo extra extra' R) (hR : ∀ t t', R t t' → (t, t') ∈ pairs)
    (hdefault : defaultName = defaultName' ∨ NamesActor defaultName ∧ NamesActor defaultName')
    (htokens : List.Forall₂ (List.Forall₂ R) queries queries')
    (halone : ∀ query ∈ queries, ∀ token ∈ query, StandsAlone token)
    (halone' : ∀ query ∈ queries', ∀ token ∈ query, StandsAlone token)
    (hgame : List.Forall₂ (fun query query' => SameFirst (fun token => (c.gameType? token).isSome)
      (gameTokens query) (gameTokens query')) queries queries')
    (h : List.Forall₂ (fun query q => buildQuery c context defaultName shown query = .ok q)
      queries qs)
    (h' : List.Forall₂ (fun query q => buildQuery c context defaultName' shown query = .ok q)
      queries' qs') :
    List.Forall₂ (fun q q' => q.SameBut (MayDiffer q.scope defaultName defaultName' pairs) q')
      qs qs' := by
  induction htokens generalizing qs qs' with
  | nil =>
    cases h
    cases h'
    exact .nil
  | cons hquery _ ih =>
    obtain ⟨hquery₁, halone⟩ := List.forall_mem_cons.mp halone
    obtain ⟨hquery₂, halone'⟩ := List.forall_mem_cons.mp halone'
    cases hgame with
    | cons hfirst hgame =>
      cases h with
      | cons hbuilt h =>
        cases h' with
        | cons hbuilt' h' =>
          exact .cons
            (sameBut_of_build hkeeps hR hdefault hquery hquery₁ hquery₂ hfirst hbuilt hbuilt')
            (ih halone halone' hgame h h')

/-- **Values stay out of the text**: if two commands are variants of each other, and their default
actors are the same or both named, they have as many queries, and these have the same statements, letter
by letter. Their values differ at most where the default actors do, or two corresponding tokens. -/
theorem values_stay_out_of_text {g g' : QueryGroup}
    (hdefault : defaultName = defaultName' ∨ NamesActor defaultName ∧ NamesActor defaultName')
    (hw : CommandWords.read (defaultScope c context) tokens = .ok w)
    (hw' : CommandWords.read (defaultScope c context) tokens' = .ok w')
    (hvariants : CommandVariants c w w' tokens tokens')
    (h : QueryGroup.parse c context defaultName tokens = .ok g)
    (h' : QueryGroup.parse c context defaultName' tokens' = .ok g') :
    g.queries.length = g'.queries.length ∧
      List.Forall₂ (fun q q' => q.SameBut
        (MayDiffer q.scope defaultName defaultName' (tokens.zip tokens')) q')
        g.queries g'.queries := by
  obtain ⟨words, hwords, hparsed⟩ := parse_eq_ok h
  obtain rfl := Except.ok.inj (hw.symm.trans hwords)
  obtain ⟨words', hwords', hparsed'⟩ := parse_eq_ok h'
  obtain rfl := Except.ok.inj (hw'.symm.trans hwords')
  -- tokens are related if they are variants and stand at the same place
  let R : String → String → Prop := fun t t' =>
    Variants w.extra w'.extra t t' ∧ (t, t') ∈ tokens.zip tokens'
  have hkeeps : KeepsTo w.extra w'.extra R := fun t t' ht => ht.1
  have htokens : List.Forall₂ R tokens tokens' := by
    obtain ⟨hlength, hzip⟩ := List.forall₂_iff_zip.mp hvariants.variants
    exact List.forall₂_iff_zip.mpr ⟨hlength, fun hpair => ⟨hzip hpair, hpair⟩⟩
  have hread := CommandWords.readFrom hw
  have hread' := CommandWords.readFrom hw'
  obtain ⟨hextra, hleft⟩ := hread.agree hread' hkeeps htokens
  have hshown : g.extra = g'.extra :=
    Except.ok.inj (hparsed.extra.symm.trans ((sharedExtra_eq hkeeps hextra hleft).trans
      hparsed'.extra))
  have hqueries' := hparsed'.queries
  rw [← hshown] at hqueries'
  obtain ⟨halone, halone'⟩ := List.forall_mem_append.mp hvariants.alone
  have hsame := forall₂_sameBut hkeeps (fun t t' ht => ht.2) hdefault
    (forall₂_queryTokens hkeeps hleft)
    (fun query hquery token htoken => halone token (hread.mem_of_query hquery token htoken))
    (fun query hquery token htoken => halone' token (hread'.mem_of_query hquery token htoken))
    hvariants.game hparsed.queries hqueries'
  exact ⟨hsame.length_eq, hsame⟩

end Commands

/-- Over the built-in catalog, two commands for other actors with other values, one of which is written
like a piece of a statement, have the same statements but for values. -/
theorem quoted_values_stay_out_of_text : ∃ g g',
    QueryGroup.parse .builtin .game "ann" ["@cid", "god=Trog", "s=race", "/", "xl>5"] = .ok g ∧
      QueryGroup.parse .builtin .game "bob" ["@dot", "god=' OR 1;--", "s=race", "/", "xl>9"] =
        .ok g' ∧
      g.queries.length = g'.queries.length ∧
      List.Forall₂ (fun q q' => q.SameBut (MayDiffer q.scope "ann" "bob"
        (["@cid", "god=Trog", "s=race", "/", "xl>5"].zip
          ["@dot", "god=' OR 1;--", "s=race", "/", "xl>9"])) q') g.queries g'.queries := by
  have hparsed : (QueryGroup.parse .builtin .game "ann"
      ["@cid", "god=Trog", "s=race", "/", "xl>5"]).toOption.map (fun g => g.queries.length) =
        some 2 := by decide +kernel
  have hparsed' : (QueryGroup.parse .builtin .game "bob"
      ["@dot", "god=' OR 1;--", "s=race", "/", "xl>9"]).toOption.map (fun g => g.queries.length) =
        some 2 := by decide +kernel
  have hread : (CommandWords.read (defaultScope .builtin .game)
      ["@cid", "god=Trog", "s=race", "/", "xl>5"]).toOption.map
        (fun w => (w.extra, w.queryTokens)) =
      some (.none, [["@cid", "god=Trog", "s=race"], ["@cid", "god=Trog", "s=race", "xl>5"]]) := by
    decide +kernel
  have hread' : (CommandWords.read (defaultScope .builtin .game)
      ["@dot", "god=' OR 1;--", "s=race", "/", "xl>9"]).toOption.map
        (fun w => (w.extra, w.queryTokens)) =
      some (.none, [["@dot", "god=' OR 1;--", "s=race"],
        ["@dot", "god=' OR 1;--", "s=race", "xl>9"]]) := by
    decide +kernel
  obtain ⟨g, hg, -⟩ := exists_ok_of_map hparsed
  obtain ⟨g', hg', -⟩ := exists_ok_of_map hparsed'
  obtain ⟨w, hw, hseen⟩ := exists_ok_of_map hread
  obtain ⟨w', hw', hseen'⟩ := exists_ok_of_map hread'
  obtain ⟨hextra, hqueries⟩ := Prod.mk.inj hseen
  obtain ⟨hextra', hqueries'⟩ := Prod.mk.inj hseen'
  have hvariants : CommandVariants .builtin w w' ["@cid", "god=Trog", "s=race", "/", "xl>5"]
      ["@dot", "god=' OR 1;--", "s=race", "/", "xl>9"] := by
    constructor
    · rw [hextra, hextra']
      have hactor : SameForm "@cid" "@dot" := .actor (by decide) (by decide)
      have hgod : SameForm "god=Trog" "god=' OR 1;--" :=
        .term (by decide : _ = some ("god", Comparator.eq, "Trog"))
          (by decide : _ = some ("god", Comparator.eq, "' OR 1;--"))
      have hlevel : SameForm "xl>5" "xl>9" :=
        .term (by decide : _ = some ("xl", Comparator.gt, "5"))
          (by decide : _ = some ("xl", Comparator.gt, "9"))
      exact .cons (.changed hactor (by decide +kernel) (by decide +kernel)) <|
        .cons (.changed hgod (by decide +kernel) (by decide +kernel)) <|
        .cons (.same _) <| .cons (.same _) <|
        .cons (.changed hlevel (by decide +kernel) (by decide +kernel)) .nil
    · unfold StandsAlone
      decide +kernel
    · rw [hqueries, hqueries']
      refine .cons ?_ (.cons ?_ .nil)
      · exact sameFirst_of_none (by decide +kernel) (by decide +kernel)
      · exact sameFirst_of_none (by decide +kernel) (by decide +kernel)
  have hnames : NamesActor "ann" ∧ NamesActor "bob" :=
    ⟨⟨by decide, by decide⟩, ⟨by decide, by decide⟩⟩
  exact ⟨g, g', hg, hg', values_stay_out_of_text (.inr hnames) hw hw' hvariants hg hg'⟩

end GameLog
