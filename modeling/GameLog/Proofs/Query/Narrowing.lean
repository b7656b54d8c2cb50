import GameLog.Catalog.Builtin
import GameLog.Proofs.Query.Seam
import GameLog.Statement.Reading

/-!
# When a further fragment narrows the primary query

The query of a further fragment is built from the tokens of the first fragment with its own behind
them, all read at once. Terms beside each other hold together and `||` binds weaker than that, so
that the last alternative of the first fragment and the first one of the further fragment become
one alternative, and all others stand beside it. The query then asks for the primary query and the
fragment exactly where no alternative on one side holds without the other side.

Main statements:
* `Derives.beside`: terms in front of other terms are an expression joined at one alternative;
* `further_query_narrows_iff`: which rows keep a further query from narrowing the primary one.
-/

namespace GameLog

open TermPart

/-! ## Expressions beside each other -/

namespace TermPart

theorem treeTokens_append (done : TermTree) (parts : List TermPart) (rest : TermTree) :
    treeTokens (done ++ parts :: rest) =
      done.flatMap (fun parts => partsTokens parts ++ [orToken]) ++ treeTokens (parts :: rest) := by
  induction done with
  | nil => rfl
  | cons first done ih =>
    have hstep : treeTokens (first :: (done ++ parts :: rest)) =
        partsTokens first ++ orToken :: treeTokens (done ++ parts :: rest) := by
      cases done <;> rfl
    rw [List.cons_append, hstep, ih]
    simp

theorem treeTokens_joined (last first : List TermPart) (rest : TermTree) :
    treeTokens ((last ++ first) :: rest) = partsTokens last ++ treeTokens (first :: rest) := by
  cases rest with
  | nil => exact partsTokens_append last first
  | cons next rest => simp [treeTokens, partsTokens_append]

theorem partsHold_append (value : String → Bool) (a b : List TermPart) :
    partsHold value (a ++ b) = (partsHold value a && partsHold value b) := by
  induction a with
  | nil => rfl
  | cons part parts ih => simp [partsHold, ih, Bool.and_assoc]

theorem treeHolds_append (value : String → Bool) (a b : TermTree) :
    treeHolds value (a ++ b) = (treeHolds value a || treeHolds value b) := by
  induction a with
  | nil => rfl
  | cons parts tree ih => simp [treeHolds, ih, Bool.or_assoc]

end TermPart

namespace TermTree

theorem fits_iff {accepted : String → Bool} {tree : TermTree} :
    tree.fits accepted = true ↔ tree ≠ [] ∧ ∀ parts ∈ tree, partsFit accepted parts = true ∧
      (1 < tree.length → partsTerms parts ≠ []) := by
  simp only [fits, Bool.and_eq_true, treeFits_iff, decide_eq_true_eq]
  simp

/-- **Terms in front of other terms are an expression** that has the alternatives of both, but for
the last one of the first and the first one of the second, which are one alternative. -/
theorem Derives.beside {s : Scope} {done rest : TermTree} {last first : List TermPart}
    {a b : List String} (hp : Derives s (done ++ [last]) a) (hf : Derives s (first :: rest) b) :
    Derives s (done ++ (last ++ first) :: rest) (a ++ b) := by
  obtain ⟨-, hpfits⟩ := fits_iff.mp hp.fits
  obtain ⟨-, hffits⟩ := fits_iff.mp hf.fits
  have hlast := hpfits last (by simp)
  have hfirst := hffits first (by simp)
  constructor
  · refine fits_iff.mpr ⟨by simp, fun parts hparts => ?_⟩
    rcases List.mem_append.mp hparts with hdone | hrest
    · obtain ⟨hfit, hfilled⟩ := hpfits parts (by simp [hdone])
      refine ⟨hfit, fun _ => hfilled ?_⟩
      have := List.length_pos_of_mem hdone
      simpa using this
    rcases List.mem_cons.mp hrest with rfl | hrest
    · refine ⟨by rw [partsFit_append, hlast.1, hfirst.1]; rfl, fun hlen => ?_⟩
      -- the joined alternative has a term on the side that has several alternatives
      rw [partsTerms_append]
      intro hnil
      obtain ⟨hnil, hnil'⟩ := List.append_eq_nil_iff.mp hnil
      by_cases hdone : done = []
      · subst hdone
        exact hfirst.2 (by simpa using hlen) hnil'
      · refine hlast.2 ?_ hnil
        have := List.length_pos_of_ne_nil hdone
        simpa using this
    · obtain ⟨hfit, hfilled⟩ := hffits parts (by simp [hrest])
      refine ⟨hfit, fun _ => hfilled ?_⟩
      have := List.length_pos_of_mem hrest
      simpa using this
  · rw [treeTokens_append, treeTokens_joined, ← hp.tokens_eq, ← hf.tokens_eq, treeTokens_append]
    simp [treeTokens]

theorem Derives.holds_eq {s : Scope} {tree tree' : TermTree} {tokens : List String}
    (h : tree.Derives s tokens) (h' : tree'.Derives s tokens) (value : Comparison → Bool) :
    tree.holds (fun token => value (s.comparison token)) =
      tree'.holds fun token => value (s.comparison token) := by
  have hsame : tree.condition s.comparison = tree'.condition s.comparison :=
    Except.ok.inj (h.readTerms_eq.symm.trans h'.readTerms_eq)
  have hholds := TermTree.holds_condition ⟨value, fun _ => true⟩ s.comparison h.fits
  rw [hsame, TermTree.holds_condition ⟨value, fun _ => true⟩ s.comparison h'.fits] at hholds
  exact hholds.symm

end TermTree

/-! ## What a query selects -/

/-- What the condition of the counting statement of a query says with its values, read by the
precedence of the store and leaving the equality of the join aside. -/
def Query.selects (q : Query) (value : Comparison → Bool) : Option Bool :=
  Condition.readTokens? ⟨value, fun _ => true⟩ q.selectCount.condition.tokens q.selectCount.params

/-- What words ask for besides their terms: their actor and the milestone types of their groups. -/
def QueryWords.context (w : QueryWords) (s : Scope) (value : Comparison → Bool) : Bool :=
  (s.actorComparisons w.actor).all value && (s.pivotComparisons w.group).all value

/-- Whether terms hold, given which comparisons do. -/
def TermTree.isTrue (s : Scope) (value : Comparison → Bool) (tree : TermTree) : Bool :=
  tree.holds fun token => value (s.comparison token)

theorem Query.BuiltFrom.selects_eq {w : QueryWords} {s : Scope} {tree : TermTree}
    {extra : ExtraList} {q : Query} (h : q.BuiltFrom w s tree extra) (value : Comparison → Bool) :
    q.selects value = some (w.context s value && tree.isTrue s value) := by
  have hread := Condition.readTokens?_tokens ⟨value, fun _ => true⟩ q.condition
  have hjoin : q.joinTexts.all (fun _ => true) = true := by simp
  rw [h.means.holds_eq, hjoin, Bool.and_true] at hread
  refine Eq.trans hread (congrArg some ?_)
  rw [QueryWords.meaning, QueryWords.context, TermTree.isTrue, Bool.and_right_comm]

/-- Two expressions joined at one alternative are true where that alternative is on both sides, or
another one is on either side. -/
theorem TermTree.isTrue_beside (s : Scope) (value : Comparison → Bool) (done rest : TermTree)
    (last first : List TermPart) :
    TermTree.isTrue s value (done ++ (last ++ first) :: rest) =
      (TermTree.isTrue s value done ||
        (TermTree.isTrue s value [last] && TermTree.isTrue s value [first]) ||
        TermTree.isTrue s value rest) := by
  simp [TermTree.isTrue, TermTree.holds, treeHolds_append, treeHolds, partsHold_append,
    Bool.or_assoc]

/-- **The query of a plain fragment selects by both expressions joined at one alternative.** -/
theorem selects_beside {c : Catalog} {context : Context} {defaultName : String}
    {extra : ExtraList} {first fragment : List String} {q : Query} {w : QueryWords}
    (hw : QueryWords.read c context defaultName first = .ok w)
    (h : buildQuery c context defaultName extra (first ++ fragment) = .ok q)
    (hplain : PlainFragment c fragment) (hclean : MeetCleanly first fragment)
    {done rest : TermTree} {last next : List TermPart}
    (hp : TermTree.Derives (w.scope c context) (done ++ [last]) w.terms)
    (hf : TermTree.Derives (w.scope c context) (next :: rest) (fragmentTerms fragment))
    (value : Comparison → Bool) :
    q.selects value = some (w.context (w.scope c context) value &&
      TermTree.isTrue (w.scope c context) value (done ++ (last ++ next) :: rest)) := by
  obtain ⟨w', tree, hw', hbuilt⟩ := buildQuery_eq_ok h
  obtain ⟨hgroup, hactor, hgame, hterms⟩ :=
    (QueryWords.readFrom hw).beside (QueryWords.readFrom hw') hplain hclean
  have hscope : w'.scope c context = w.scope c context := by rw [QueryWords.scope, hgame]; rfl
  rw [hscope] at hbuilt
  have hderives := hbuilt.derives
  rw [hterms] at hderives
  rw [hbuilt.selects_eq value]
  -- both trees derive the same tokens
  have hsame := hderives.holds_eq (hp.beside hf) value
  rw [QueryWords.context, hgroup, hactor, TermTree.isTrue, hsame]
  rfl

/-! ## Narrowing -/

/-- A query selects what another one does, of that only what is asked for besides. -/
def Query.Narrows (q primary : Query) (value : Comparison → Bool) (asked : Bool) : Prop :=
  q.selects value = (primary.selects value).map (· && asked)

/-- **The alternatives of two sides agree** for rows that an actor and groups ask for: no alternative
but the joined one is true on one side without the other side. -/
def AlternativesAgree (s : Scope) (w : QueryWords) (value : Comparison → Bool) (done : TermTree)
    (last next : List TermPart) (rest : TermTree) : Prop :=
  w.context s value = true →
    (TermTree.isTrue s value done = true → TermTree.isTrue s value (next :: rest) = true) ∧
    (TermTree.isTrue s value rest = true → TermTree.isTrue s value (done ++ [last]) = true)

/-- Alternatives joined across a seam say what both sides say exactly if no other alternative of one
side is true without the other side. -/
theorem seam_iff (c done last next rest : Bool) :
    (c && (done || last && next || rest)) = (c && (done || last) && (next || rest)) ↔
      (c = true → (done = true → (next || rest) = true) ∧
        (rest = true → (done || last) = true)) := by
  cases c <;> cases done <;> cases last <;> cases next <;> cases rest <;> decide

/-- **The query of one fragment narrows the primary query exactly where their alternatives agree.** -/
theorem narrows_iff {c : Catalog} {context : Context} {defaultName : String}
    {extra : ExtraList} {first fragment : List String} {primary q : Query} {w : QueryWords}
    {done rest : TermTree} {last next : List TermPart}
    (hw : QueryWords.read c context defaultName first = .ok w)
    (hprimary : primary.BuiltFrom w (w.scope c context) (done ++ [last]) extra)
    (h : buildQuery c context defaultName extra (first ++ fragment) = .ok q)
    (hplain : PlainFragment c fragment) (hclean : MeetCleanly first fragment)
    (hf : TermTree.Derives (w.scope c context) (next :: rest) (fragmentTerms fragment))
    (value : Comparison → Bool) :
    q.Narrows primary value (TermTree.isTrue (w.scope c context) value (next :: rest)) ↔
      AlternativesAgree (w.scope c context) w value done last next rest := by
  have hselects := selects_beside hw h hplain hclean hprimary.derives hf value
  rw [TermTree.isTrue_beside] at hselects
  set s := w.scope c context
  have hlast : TermTree.isTrue s value (done ++ [last]) =
      (TermTree.isTrue s value done || TermTree.isTrue s value [last]) :=
    treeHolds_append _ done [last]
  have hfirst : TermTree.isTrue s value (next :: rest) =
      (TermTree.isTrue s value [next] || TermTree.isTrue s value rest) :=
    treeHolds_append _ [next] rest
  unfold Query.Narrows AlternativesAgree
  rw [hselects, hprimary.selects_eq, Option.map_some, Option.some.injEq, hlast, hfirst]
  exact seam_iff _ _ _ _ _

/-- **Without alternatives on either side a further query narrows the primary one.** -/
theorem narrows_of_single {c : Catalog} {context : Context} {defaultName : String}
    {extra : ExtraList} {first fragment : List String} {primary q : Query} {w : QueryWords}
    {last next : List TermPart} (hw : QueryWords.read c context defaultName first = .ok w)
    (hprimary : primary.BuiltFrom w (w.scope c context) [last] extra)
    (h : buildQuery c context defaultName extra (first ++ fragment) = .ok q)
    (hplain : PlainFragment c fragment) (hclean : MeetCleanly first fragment)
    (hf : TermTree.Derives (w.scope c context) [next] (fragmentTerms fragment))
    (value : Comparison → Bool) :
    q.Narrows primary value (TermTree.isTrue (w.scope c context) value [next]) := by
  have hiff : _ ↔ AlternativesAgree _ w value [] last next [] :=
    narrows_iff hw hprimary h hplain hclean hf value
  refine hiff.mpr fun _ => ⟨?_, ?_⟩
  · intro hnone
    cases hnone
  · intro hnone
    cases hnone

/-- **When the further fragments of a command narrow the primary query.** The primary query has the
alternatives `done` and then `last`, a plain fragment that meets it cleanly has `next` and then
`rest`. Its query asks for the primary query and the fragment exactly where the alternatives agree:
the fragment is true where one of `done` is, and the primary query where one of `rest` is. -/
theorem further_query_narrows_iff {c : Catalog} {context : Context} {defaultName : String}
    {tokens : List String} {g : QueryGroup}
    (h : QueryGroup.parse c context defaultName tokens = .ok g) :
    ∃ words w done last, CommandWords.read (defaultScope c context) tokens = .ok words ∧
      QueryWords.read c context defaultName words.first = .ok w ∧
      TermTree.Derives (w.scope c context) (done ++ [last]) w.terms ∧
      List.Forall₂ (fun fragment q => PlainFragment c fragment → MeetCleanly words.first fragment →
        ∀ next rest,
          TermTree.Derives (w.scope c context) (next :: rest) (fragmentTerms fragment) →
          ∀ value, q.Narrows g.primary value
              (TermTree.isTrue (w.scope c context) value (next :: rest)) ↔
            AlternativesAgree (w.scope c context) w value done last next rest)
        words.others g.others := by
  obtain ⟨words, hwords, hparsed⟩ := parse_eq_ok h
  obtain ⟨w, tree, hw, hbuilt⟩ := buildQuery_eq_ok hparsed.primary
  have hne : tree ≠ [] := (TermTree.fits_iff.mp hbuilt.derives.fits).1
  have htree : tree.dropLast ++ [tree.getLast hne] = tree := List.dropLast_append_getLast hne
  rw [← htree] at hbuilt
  refine ⟨words, w, tree.dropLast, tree.getLast hne, hwords, hw, hbuilt.derives, ?_⟩
  exact hparsed.others.imp fun fragment q hq hplain hclean next rest hnext value =>
    narrows_iff hw hbuilt hq hplain hclean hnext value

/-- Over the built-in catalog, the query behind two alternatives and a fragment of one term narrows
exactly where the alternatives agree. -/
theorem builtin_fragment_narrows_iff : ∃ g,
    QueryGroup.parse .builtin .game "*" ["god=Trog", "||", "god=Okawaru", "/", "xl>5"] = .ok g ∧
      ∃ w done last, QueryWords.read .builtin .game "*" ["god=Trog", "||", "god=Okawaru"] = .ok w ∧
        TermTree.Derives (defaultScope .builtin .game) (done ++ [last]) w.terms ∧
        ∀ q ∈ g.others, ∀ value, q.Narrows g.primary value
            (TermTree.isTrue (defaultScope .builtin .game) value [[.term "xl>5"]]) ↔
          AlternativesAgree (defaultScope .builtin .game) w value done last [.term "xl>5"] [] := by
  have hwords : (CommandWords.read (defaultScope .builtin .game)
      ["god=Trog", "||", "god=Okawaru", "/", "xl>5"]).toOption.map (fun words =>
        (words.first, words.others)) =
      some (["god=Trog", "||", "god=Okawaru"], [["xl>5"]]) := by decide +kernel
  have hgame : (QueryWords.read .builtin .game "*" ["god=Trog", "||", "god=Okawaru"]).toOption.map
      QueryWords.game = some Catalog.builtin.defaultGame := by decide +kernel
  have htwo : (QueryGroup.parse .builtin .game "*"
      ["god=Trog", "||", "god=Okawaru", "/", "xl>5"]).toOption.map
        (fun g => g.queries.length) = some 2 := by decide +kernel
  have hplain : PlainFragment .builtin ["xl>5"] :=
    ⟨by decide +kernel, by decide +kernel, by decide +kernel, by decide +kernel⟩
  have hclean : MeetCleanly ["god=Trog", "||", "god=Okawaru"] ["xl>5"] := by
    unfold MeetCleanly
    decide +kernel
  have hnext : TermTree.Derives (defaultScope .builtin .game) [[.term "xl>5"]]
      (fragmentTerms ["xl>5"]) := ⟨by decide +kernel, by decide +kernel⟩
  obtain ⟨g, hparse, -⟩ := exists_ok_of_map htwo
  obtain ⟨words, w, done, last, hread, hw, hderives, hall⟩ := further_query_narrows_iff hparse
  rw [hread] at hwords
  obtain ⟨hfirst, hothers⟩ := Prod.mk.inj (Option.some.inj hwords)
  rw [hfirst] at hw hall
  rw [hothers] at hall
  rw [hw] at hgame
  have hscope : w.scope .builtin .game = defaultScope .builtin .game := by
    rw [QueryWords.scope, Option.some.inj hgame]
    rfl
  rw [hscope] at hderives hall
  refine ⟨g, hparse, w, done, last, hw, hderives, fun q hq value => ?_⟩
  obtain ⟨only, others, hnarrows, hnil, hcons⟩ := List.forall₂_cons_left_iff.mp hall
  obtain rfl := List.forall₂_nil_left_iff.mp hnil
  obtain rfl : q = only := by simpa [hcons] using hq
  exact hnarrows hplain hclean [.term "xl>5"] [] hnext value

/-! ## Alternatives across a slash -/

/-- **A fragment may lose its hold on the primary query**: of two alternatives before the slash it is
joined to the second one only, so that a row with the first one is selected although the fragment is
false of it. -/
theorem alternative_not_narrowed : ∃ g,
    QueryGroup.parse .builtin .game "*" ["god=Trog", "||", "god=Okawaru", "/", "xl>5"] = .ok g ∧
      ∃ value : Comparison → Bool,
        g.primary.selects value = some true ∧
        g.others.map (·.selects value) = [some true] ∧
        TermTree.isTrue (defaultScope .builtin .game) value [[.term "xl>5"]] = false := by
  let value : Comparison → Bool := fun comparison => comparison.value == .text "Trog"
  have hselects : (QueryGroup.parse .builtin .game "*"
      ["god=Trog", "||", "god=Okawaru", "/", "xl>5"]).toOption.map (fun g =>
        (g.primary.selects value, g.others.map (·.selects value))) =
      some (some true, [some true]) := by decide +kernel
  have hterm : TermTree.isTrue (defaultScope .builtin .game) value [[.term "xl>5"]] = false := by
    decide +kernel
  obtain ⟨g, hparse, hboth⟩ := exists_ok_of_map hselects
  obtain ⟨hprimary, hothers⟩ := Prod.mk.inj hboth
  exact ⟨g, hparse, value, hprimary, hothers, hterm⟩

end GameLog
