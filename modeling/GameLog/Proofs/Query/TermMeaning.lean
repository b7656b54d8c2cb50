import GameLog.Catalog.Builtin
import GameLog.Proofs.Query.Grammar
import GameLog.Proofs.Statement.PlainText
import GameLog.Query.Group

/-!
# What terms mean by their grammar

The grammar of terms gives each list of tokens at most one meaning: terms beside each other hold
together, of alternatives one holds, and where there are no terms nothing is asked. Reading the tokens
gives a condition of that meaning by the plain truth of "and" and "or", because no alternative in it is
empty (`isFilled_condition`), however deep.

Main statements:
* `TermTree.isTrue_condition`: the condition of a tree is true exactly if the tree holds;
* `terms_read_by_grammar`: tokens are read exactly if a tree derives them, as what it means.
-/

namespace GameLog

namespace TermPart

/-! ## No alternative is empty -/

theorem isFilled_together {parts : List Condition} (h : Condition.areFilled parts = true) :
    (TermLevel.together parts).isFilled = true := by
  rcases parts with _ | ⟨part, _ | ⟨next, rest⟩⟩
  · rfl
  · simpa [TermLevel.together, Condition.areFilled] using h
  · exact h

/-- Alternatives are filled if they are so each, and if none of several is empty. -/
theorem isFilled_either {alternatives : List Condition}
    (h : Condition.areFilled alternatives = true)
    (hempty : 1 < alternatives.length → ∀ c ∈ alternatives, c.isEmpty = false) :
    (either alternatives).isFilled = true := by
  rcases alternatives with _ | ⟨first, _ | ⟨next, rest⟩⟩
  · rfl
  · simpa [either, Condition.areFilled] using h
  · have hall : ∀ c ∈ first :: next :: rest, c.isEmpty = false := hempty (by simp)
    change (Condition.joined .or (first :: next :: rest)).isFilled = true
    rw [Condition.isFilled, h, Bool.and_true, List.all_eq_true]
    intro c hc
    rw [hall c hc]
    rfl

theorem isEmpty_of_treeFits {accepted : String → Bool} (bind : String → Comparison)
    {tree : TermTree} (h : treeFits accepted (1 < tree.length) tree = true) :
    1 < (treeConditions bind tree).length → ∀ c ∈ treeConditions bind tree, c.isEmpty = false := by
  intro hlen
  rw [length_treeConditions] at hlen
  rw [decide_eq_true hlen] at h
  exact isEmpty_of_mem_treeConditions h

mutual

/-- **The condition of a part has no empty alternatives**, whatever its terms are bound to. -/
theorem isFilled_condition (bind : String → Comparison) {accepted : String → Bool} :
    (part : TermPart) → part.fits accepted = true → (part.condition bind).isFilled = true
  | term token, _ => rfl
  | group alternatives, h => by
    simp only [fits, Bool.and_eq_true] at h
    rw [condition]
    exact isFilled_either (areFilled_treeConditions bind alternatives _ h.2)
      (isEmpty_of_treeFits bind h.2)

theorem areFilled_partsConditions (bind : String → Comparison) {accepted : String → Bool} :
    (parts : List TermPart) → partsFit accepted parts = true →
      Condition.areFilled (partsConditions bind parts) = true
  | [], _ => rfl
  | part :: parts, h => by
    simp only [partsFit, Bool.and_eq_true] at h
    rw [partsConditions, Condition.areFilled, isFilled_condition bind part h.1,
      areFilled_partsConditions bind parts h.2]
    rfl

theorem areFilled_treeConditions (bind : String → Comparison) {accepted : String → Bool} :
    (tree : TermTree) → (filled : Bool) → treeFits accepted filled tree = true →
      Condition.areFilled (treeConditions bind tree) = true
  | [], _, _ => rfl
  | parts :: tree, filled, h => by
    simp only [treeFits, Bool.and_eq_true] at h
    rw [treeConditions, Condition.areFilled,
      isFilled_together (areFilled_partsConditions bind parts h.1.1),
      areFilled_treeConditions bind tree filled h.2]
    rfl

end

end TermPart

open TermPart

namespace TermTree

/-- The condition of a tree that keeps to the grammar has no empty alternatives. -/
theorem isFilled_condition (bind : String → Comparison) {accepted : String → Bool}
    {tree : TermTree} (h : tree.fits accepted = true) : (tree.condition bind).isFilled = true := by
  simp only [fits, Bool.and_eq_true] at h
  exact isFilled_either (areFilled_treeConditions bind tree _ h.2) (isEmpty_of_treeFits bind h.2)

/-- **The condition of a tree is true exactly if the tree holds.** -/
theorem isTrue_condition (a : Assignment) (bind : String → Comparison) {accepted : String → Bool}
    {tree : TermTree} (h : tree.fits accepted = true) :
    (tree.condition bind).isTrue a = tree.holds fun token => a.comparison (bind token) := by
  rw [← Condition.holds_eq_isTrue a _ (isFilled_condition bind h), holds_condition a bind h]

end TermTree

/-! ## What is read -/

theorem isFilled_of_readTerms {s : Scope} {tokens : List String} {c : Condition}
    (h : readTerms s tokens = .ok c) : c.isFilled = true := by
  obtain ⟨tree, htree, rfl⟩ := readTerms_eq_ok_iff.mp h
  exact TermTree.isFilled_condition s.comparison htree.fits

theorem TermTree.Derives.bound {s : Scope} {tree : TermTree} {tokens : List String}
    (h : tree.Derives s tokens) :
    (tokens.filter isTermWord).mapM (readTerm s) = .ok (tree.condition s.comparison).comparisons := by
  rw [← h.terms_eq, comparisons_condition]
  exact mapM_eq_ok.mpr (List.forall₂_map_right_iff.mpr
    (List.forall₂_same.mpr fun token ht => Scope.readTerm_of_accepts (h.accepts token ht)))

/-- **Terms are read exactly by their grammar, as what it means.** A list of tokens is read if and
only if it is derived by a tree: alternatives with `||` between them, each of them terms and groups in
`((` and `))` beside each other, where every term is accepted and each of several alternatives has one.
The comparisons of the condition are what the terms are bound to, one after another, and the condition
is true exactly if the tree holds. -/
theorem terms_read_by_grammar (s : Scope) (tokens : List String) :
    ((∃ c, readTerms s tokens = .ok c) ↔ ∃ tree : TermTree, tree.Derives s tokens) ∧
    ∀ c, readTerms s tokens = .ok c →
      (tokens.filter isTermWord).mapM (readTerm s) = .ok c.comparisons ∧
      ∀ tree : TermTree, tree.Derives s tokens → ∀ a : Assignment,
        c.isTrue a = tree.holds fun token => a.comparison (s.comparison token) := by
  constructor
  · constructor
    · rintro ⟨c, hread⟩
      obtain ⟨tree, htree, -⟩ := readTerms_eq_ok_iff.mp hread
      exact ⟨tree, htree⟩
    · rintro ⟨tree, htree⟩
      exact ⟨_, htree.readTerms_eq⟩
  · intro c hread
    constructor
    · obtain ⟨tree, htree, rfl⟩ := readTerms_eq_ok_iff.mp hread
      exact htree.bound
    · intro tree htree a
      obtain rfl := Except.ok.inj (hread.symm.trans htree.readTerms_eq)
      exact TermTree.isTrue_condition a s.comparison htree.fits

/-- Terms beside a group with an empty group in one of its alternatives. -/
theorem nested_terms_read_by_grammar :
    let s := defaultScope .builtin .game
    ∃ c, readTerms s ["god=Trog", "((", "xl>5", "||", "((", "))", "sc<9", "))"] = .ok c ∧
      ["god=Trog", "xl>5", "sc<9"].mapM (readTerm s) = .ok c.comparisons ∧
      ∀ a : Assignment, c.isTrue a =
        (a.comparison (s.comparison "god=Trog") &&
          (a.comparison (s.comparison "xl>5") || a.comparison (s.comparison "sc<9"))) := by
  intro s
  let tree : TermTree := [[.term "god=Trog", .group [[.term "xl>5"], [.group [[]], .term "sc<9"]]]]
  have htree : tree.Derives s ["god=Trog", "((", "xl>5", "||", "((", "))", "sc<9", "))"] :=
    ⟨by decide +kernel, by decide +kernel⟩
  obtain ⟨hread, hmeans⟩ := terms_read_by_grammar s
    ["god=Trog", "((", "xl>5", "||", "((", "))", "sc<9", "))"]
  obtain ⟨c, hc⟩ := hread.mpr ⟨tree, htree⟩
  obtain ⟨hbound, htrue⟩ := hmeans c hc
  refine ⟨c, hc, hbound, fun a => (htrue tree htree a).trans ?_⟩
  simp [tree, TermTree.holds, treeHolds, partsHold, TermPart.holds]

end GameLog
