import GameLog.Proofs.Outcome
import GameLog.Query.TermTree.Reading

/-!
# Terms are read exactly by their grammar

The tokens of an expression are read as its condition (`readTerms_tokens`). Here is the converse:
whatever is read is the expression of some tree, so that the trees say which lists of tokens are
terms and what they mean.

Each level behind an opening is a tree that is not complete yet (`OpenTree`). Reading a token adds
to the innermost one, and a closing makes it a part of the next.

Main statements:
* `readTerms_eq_ok_iff`: terms are read exactly if a tree has them as its tokens, as its condition;
* `comparisons_condition`: the comparisons are those of the terms from left to right;
* `filter_treeTokens`: the terms of a tree are its tokens without the words of the grammar.
-/

namespace GameLog

open TermPart

/-! ## What terms are bound to -/

namespace Scope

/-- Whether a token is a term in a scope. -/
def accepts (s : Scope) (token : String) : Bool := (readTerm s token).toOption.isSome

/-- The comparison that a term means in a scope. Nothing is asked of tokens that are no terms. -/
def comparison (s : Scope) (token : String) : Comparison :=
  ((readTerm s token).toOption).getD ⟨⟨none, token⟩, .eq, .null⟩

theorem readTerm_of_accepts {s : Scope} {token : String} (h : s.accepts token = true) :
    readTerm s token = .ok (s.comparison token) := by
  unfold accepts at h
  unfold comparison
  cases hr : readTerm s token with
  | error e => rw [hr] at h; simp [Except.toOption] at h
  | ok c => rfl

theorem accepts_of_readTerm {s : Scope} {token : String} {c : Comparison}
    (h : readTerm s token = .ok c) : s.accepts token = true ∧ s.comparison token = c := by
  simp [accepts, comparison, h, Except.toOption]

end Scope

/-- **A tree derives tokens** in a scope: it keeps to the grammar, and they are its tokens. -/
structure TermTree.Derives (s : Scope) (tree : TermTree) (tokens : List String) : Prop where
  fits : tree.fits s.accepts = true
  tokens_eq : treeTokens tree = tokens

theorem TermTree.Derives.readTerms_eq {s : Scope} {tree : TermTree} {tokens : List String}
    (h : tree.Derives s tokens) : readTerms s tokens = .ok (tree.condition s.comparison) := by
  rw [← h.tokens_eq]
  exact readTerms_tokens (fun _ ha => Scope.readTerm_of_accepts ha) h.fits

/-! ## What keeping to the grammar asks of each alternative -/

theorem treeFits_iff {accepted : String → Bool} {filled : Bool} {tree : TermTree} :
    treeFits accepted filled tree = true ↔ ∀ parts ∈ tree, partsFit accepted parts = true ∧
      (filled = true → partsTerms parts ≠ []) := by
  induction tree with
  | nil => simp [treeFits]
  | cons parts tree ih =>
    simp only [treeFits, Bool.and_eq_true, ih, List.forall_mem_cons]
    refine and_congr_left fun _ => and_congr_right fun _ => ?_
    cases filled <;> simp

theorem partsFit_append {accepted : String → Bool} (a b : List TermPart) :
    partsFit accepted (a ++ b) = (partsFit accepted a && partsFit accepted b) := by
  induction a with
  | nil => simp [partsFit]
  | cons part parts ih => simp [partsFit, ih, Bool.and_assoc]

theorem partsTokens_append (a b : List TermPart) :
    partsTokens (a ++ b) = partsTokens a ++ partsTokens b := by
  induction a with
  | nil => simp [partsTokens]
  | cons part parts ih => simp [partsTokens, ih]

theorem partsTerms_append (a b : List TermPart) :
    partsTerms (a ++ b) = partsTerms a ++ partsTerms b := by
  induction a with
  | nil => simp [partsTerms]
  | cons part parts ih => simp [partsTerms, ih]

theorem partsConditions_append (bind : String → Comparison) (a b : List TermPart) :
    partsConditions bind (a ++ b) = partsConditions bind a ++ partsConditions bind b := by
  induction a with
  | nil => simp [partsConditions]
  | cons part parts ih => simp [partsConditions, ih]

theorem treeConditions_append (bind : String → Comparison) (a b : TermTree) :
    treeConditions bind (a ++ b) = treeConditions bind a ++ treeConditions bind b := by
  induction a with
  | nil => simp [treeConditions]
  | cons parts tree ih => simp [treeConditions, ih]

/-- A level closes as its alternatives, of which none says nothing if there are several. -/
theorem TermLevel.of_close {l : TermLevel} {c : Condition} (hc : l.close = .ok c) :
    c = either l.alternatives ∧
      (1 < l.alternatives.length → ∀ b ∈ l.alternatives, b.isEmpty = false) := by
  obtain ⟨_ | ⟨first, done⟩, parts⟩ := l
  · exact ⟨(Except.ok.inj hc).symm, fun hlen => by simp [alternatives] at hlen⟩
  · change (if (first :: done ++ [together parts]).any Condition.isEmpty then Except.error _
      else Except.ok (Condition.joined .or (first :: done ++ [together parts]))) = _ at hc
    by_cases hany : (first :: done ++ [together parts]).any Condition.isEmpty = true
    · rw [if_pos hany] at hc
      cases hc
    · rw [if_neg hany] at hc
      refine ⟨?_, fun _ b hb => ?_⟩
      · rw [← Except.ok.inj hc]
        cases done <;> rfl
      · rw [List.any_eq_true, not_exists] at hany
        exact Bool.eq_false_iff.mpr fun he => hany b ⟨hb, he⟩

theorem mem_treeConditions (bind : String → Comparison) {tree : TermTree} {parts : List TermPart}
    (h : parts ∈ tree) :
    TermLevel.together (partsConditions bind parts) ∈ treeConditions bind tree := by
  induction tree with
  | nil => simp at h
  | cons first tree ih =>
    rcases List.mem_cons.mp h with rfl | h
    · simp [treeConditions]
    · simp [treeConditions, ih h]

/-! ## Trees that are not complete -/

/-- A tree read up to some token: its complete alternatives, and the parts of the current one. -/
structure OpenTree where
  done : TermTree
  parts : List TermPart

namespace OpenTree

/-- The tree if nothing more is read. -/
def tree (o : OpenTree) : TermTree := o.done ++ [o.parts]

/-- The tokens read so far. -/
def tokens (o : OpenTree) : List String :=
  o.done.flatMap (fun parts => partsTokens parts ++ [orToken]) ++ partsTokens o.parts

/-- The level that reading keeps for a tree. -/
def level (bind : String → Comparison) (o : OpenTree) : TermLevel :=
  ⟨treeConditions bind o.done, partsConditions bind o.parts⟩

/-- All parts read so far keep to the grammar. Whether an alternative has to have a term in it is
asked at the end only. -/
def Fits (s : Scope) (o : OpenTree) : Prop := ∀ parts ∈ o.tree, partsFit s.accepts parts = true

/-- Nothing read yet. -/
def start : OpenTree := ⟨[], []⟩

/-- One more part. -/
def push (o : OpenTree) (part : TermPart) : OpenTree := ⟨o.done, o.parts ++ [part]⟩

/-- The current alternative complete. -/
def next (o : OpenTree) : OpenTree := ⟨o.tree, []⟩

theorem treeTokens_tree (o : OpenTree) : treeTokens o.tree = o.tokens := by
  obtain ⟨done, parts⟩ := o
  unfold tree tokens
  induction done with
  | nil => simp [treeTokens]
  | cons first done ih =>
    simp only at ih
    cases done with
    | nil => simp [treeTokens]
    | cons second done =>
      simp only [List.cons_append, treeTokens, List.flatMap_cons] at ih ⊢
      rw [ih]
      simp

theorem tokens_push (o : OpenTree) (part : TermPart) :
    (o.push part).tokens = o.tokens ++ part.tokens := by
  simp [push, tokens, partsTokens_append, partsTokens]

theorem tokens_next (o : OpenTree) : o.next.tokens = o.tokens ++ [orToken] := by
  simp [next, tokens, tree, partsTokens]

theorem level_push (bind : String → Comparison) (o : OpenTree) (part : TermPart) :
    (o.push part).level bind = (o.level bind).push (part.condition bind) := by
  simp [push, level, TermLevel.push, partsConditions_append, partsConditions]

theorem level_next (bind : String → Comparison) (o : OpenTree) :
    o.next.level bind = (o.level bind).next := by
  simp [next, level, TermLevel.next, tree, treeConditions_append, treeConditions, partsConditions]

theorem Fits.push {s : Scope} {o : OpenTree} (h : o.Fits s) {part : TermPart}
    (hp : part.fits s.accepts = true) : (o.push part).Fits s := by
  intro parts hmem
  simp only [OpenTree.push, tree, List.mem_append, List.mem_singleton] at hmem
  rcases hmem with hmem | rfl
  · exact h parts (by simp [tree, hmem])
  · have hparts := h o.parts (by simp [tree])
    simp [partsFit_append, partsFit, hparts, hp]

theorem Fits.next {s : Scope} {o : OpenTree} (h : o.Fits s) : o.next.Fits s := by
  intro parts hmem
  simp only [OpenTree.next, tree, List.mem_append, List.mem_singleton] at hmem
  rcases hmem with (hmem | rfl) | rfl
  · exact h parts (by simp [tree, hmem])
  · exact h o.parts (by simp [tree])
  · rfl

theorem fits_start (s : Scope) : start.Fits s := by
  intro parts hmem
  simp only [start, tree, List.nil_append, List.mem_singleton] at hmem
  subst hmem
  rfl

theorem alternatives_level (bind : String → Comparison) (o : OpenTree) :
    (o.level bind).alternatives = treeConditions bind o.tree := by
  simp [level, TermLevel.alternatives, tree, treeConditions_append, treeConditions]

/-- **A level closes only as a tree that keeps to the grammar**, and as the condition of that
tree. -/
theorem close_level {s : Scope} {o : OpenTree} (h : o.Fits s) {c : Condition}
    (hc : (o.level s.comparison).close = .ok c) :
    o.tree.fits s.accepts = true ∧ c = o.tree.condition s.comparison := by
  obtain ⟨rfl, hfilled⟩ := TermLevel.of_close hc
  rw [alternatives_level, length_treeConditions] at hfilled
  refine ⟨?_, by rw [alternatives_level]; rfl⟩
  simp only [TermTree.fits, Bool.and_eq_true]
  refine ⟨by simp [tree], treeFits_iff.mpr fun parts hp => ⟨h parts hp, fun hlen hnil => ?_⟩⟩
  have hempty := hfilled (by simpa using hlen) _ (mem_treeConditions s.comparison hp)
  rw [isEmpty_together, areEmpty_partsConditions, hnil] at hempty
  cases hempty

end OpenTree

/-! ## What reading does with a token -/

theorem readTermsIn_nil_eq_ok {s : Scope} {level : TermLevel} {outer : List TermLevel}
    {c : Condition} (h : readTermsIn s level outer [] = .ok c) :
    outer = [] ∧ level.close = .ok c := by
  obtain ⟨condition, hclose, h⟩ := bind_eq_ok.mp h
  cases outer with
  | nil => exact ⟨rfl, hclose.trans h⟩
  | cons level outer => cases h

/-- **A token ends an alternative, opens a level, closes one, or is a term.** -/
theorem readTermsIn_cons_eq_ok {s : Scope} {level : TermLevel} {outer : List TermLevel}
    {token : String} {rest : List String} {c : Condition}
    (h : readTermsIn s level outer (token :: rest) = .ok c) :
    (token = orToken ∧ readTermsIn s level.next outer rest = .ok c) ∨
    (token = openToken ∧ readTermsIn s .start (level :: outer) rest = .ok c) ∨
    (token = closeToken ∧ ∃ condition around outer', level.close = .ok condition ∧
      outer = around :: outer' ∧ readTermsIn s (around.push condition) outer' rest = .ok c) ∨
    ∃ comparison, readTerm s token = .ok comparison ∧
      readTermsIn s (level.push (.compare comparison)) outer rest = .ok c := by
  rw [readTermsIn] at h
  split at h
  · rename_i hor
    exact .inl ⟨hor, h⟩
  split at h
  · rename_i hopen
    exact .inr (.inl ⟨hopen, h⟩)
  split at h
  · rename_i hclosed
    obtain ⟨condition, hclose, h⟩ := bind_eq_ok.mp h
    cases outer with
    | nil => cases h
    | cons around outer =>
      exact .inr (.inr (.inl ⟨hclosed, condition, around, outer, hclose, rfl, h⟩))
  · exact .inr (.inr (.inr (bind_eq_ok.mp h)))

/-! ## Whatever is read is a tree -/

/-- The tokens read so far, with an opening behind each outer tree. -/
def tokensBehind : List OpenTree → List String
  | [] => []
  | o :: outer => tokensBehind outer ++ o.tokens ++ [openToken]

/-- **Whatever is read is a tree.** The induction is on the tokens that are left; the open trees
hold what was read of each level. -/
theorem exists_tree {s : Scope} {c : Condition} (rest : List String) :
    ∀ (o : OpenTree) (outer : List OpenTree), o.Fits s → (∀ o' ∈ outer, o'.Fits s) →
      readTermsIn s (o.level s.comparison) (outer.map (·.level s.comparison)) rest = .ok c →
      ∃ tree : TermTree, tree.Derives s (tokensBehind outer ++ o.tokens ++ rest) ∧
        c = tree.condition s.comparison := by
  induction rest with
  | nil =>
    intro o outer ho _ h
    obtain ⟨houter, hclose⟩ := readTermsIn_nil_eq_ok h
    obtain rfl := List.map_eq_nil_iff.mp houter
    obtain ⟨hfits, hc⟩ := OpenTree.close_level ho hclose
    exact ⟨o.tree, ⟨hfits, by simp [o.treeTokens_tree, tokensBehind]⟩, hc⟩
  | cons token rest ih =>
    intro o outer ho houter hread
    obtain ⟨rfl, h⟩ | ⟨rfl, h⟩ | ⟨rfl, condition, around, levels, hclose, hlevels, h⟩ |
      ⟨comparison, hterm, h⟩ := readTermsIn_cons_eq_ok hread
    · rw [← OpenTree.level_next] at h
      obtain ⟨tree, htree, hc⟩ := ih o.next outer ho.next houter h
      exact ⟨tree, by simpa [OpenTree.tokens_next] using htree, hc⟩
    · have houter' : ∀ o' ∈ o :: outer, o'.Fits s := by simpa [ho] using houter
      obtain ⟨tree, htree, hc⟩ := ih .start (o :: outer) (OpenTree.fits_start s) houter' h
      refine ⟨tree, ?_, hc⟩
      simpa [tokensBehind, OpenTree.start, OpenTree.tokens, partsTokens] using htree
    · -- the closed tree is a part of the level around it
      obtain ⟨o', outer', rfl, rfl, rfl⟩ := List.map_eq_cons_iff.mp hlevels
      obtain ⟨hfits, rfl⟩ := OpenTree.close_level ho hclose
      have hpart : (TermPart.group o.tree).fits s.accepts = true := hfits
      obtain ⟨ho', houter'⟩ := List.forall_mem_cons.mp houter
      have hlevel : (o'.push (.group o.tree)).level s.comparison =
          (o'.level s.comparison).push (o.tree.condition s.comparison) :=
        OpenTree.level_push s.comparison o' (.group o.tree)
      rw [← hlevel] at h
      obtain ⟨tree, htree, hc⟩ := ih (o'.push (.group o.tree)) outer' (ho'.push hpart) houter' h
      refine ⟨tree, ?_, hc⟩
      simpa [tokensBehind, OpenTree.tokens_push, TermPart.tokens, o.treeTokens_tree] using htree
    · obtain ⟨hacc, rfl⟩ := Scope.accepts_of_readTerm hterm
      have hlevel : (o.push (.term token)).level s.comparison =
          (o.level s.comparison).push (.compare (s.comparison token)) :=
        OpenTree.level_push s.comparison o (.term token)
      rw [← hlevel] at h
      obtain ⟨tree, htree, hc⟩ := ih (o.push (.term token)) outer (ho.push hacc) houter h
      exact ⟨tree, by simpa [OpenTree.tokens_push, TermPart.tokens] using htree, hc⟩

/-- **Terms are read exactly by their grammar**: they are read as a condition iff a tree derives
them, and the condition is that of the tree. -/
theorem readTerms_eq_ok_iff {s : Scope} {tokens : List String} {c : Condition} :
    readTerms s tokens = .ok c ↔
      ∃ tree : TermTree, tree.Derives s tokens ∧ c = tree.condition s.comparison := by
  constructor
  · intro h
    obtain ⟨tree, htree, hc⟩ := exists_tree tokens .start [] (OpenTree.fits_start s) (by simp) h
    exact ⟨tree, by simpa [tokensBehind, OpenTree.start, OpenTree.tokens, partsTokens] using htree,
      hc⟩
  · rintro ⟨tree, htree, rfl⟩
    exact htree.readTerms_eq

/-! ## The comparisons of a tree -/

theorem comparisons_together (parts : List Condition) :
    (TermLevel.together parts).comparisons = Condition.comparisonsIn parts := by
  rcases parts with _ | ⟨part, _ | ⟨next, rest⟩⟩ <;>
    simp [TermLevel.together, Condition.comparisons, Condition.comparisonsIn]

theorem comparisons_either (alternatives : List Condition) :
    (either alternatives).comparisons = Condition.comparisonsIn alternatives := by
  rcases alternatives with _ | ⟨first, _ | ⟨next, rest⟩⟩ <;>
    simp [either, Condition.comparisons, Condition.comparisonsIn]

mutual

theorem comparisons_part (bind : String → Comparison) : (part : TermPart) →
    (part.condition bind).comparisons = part.terms.map bind
  | .term token => by simp [TermPart.condition, TermPart.terms, Condition.comparisons]
  | .group alternatives => by
    rw [TermPart.condition, TermPart.terms, comparisons_either, comparisons_alternatives]

theorem comparisons_parts (bind : String → Comparison) : (parts : List TermPart) →
    Condition.comparisonsIn (partsConditions bind parts) = (partsTerms parts).map bind
  | [] => rfl
  | part :: parts => by
    rw [partsConditions, partsTerms, Condition.comparisonsIn, comparisons_part bind part,
      comparisons_parts bind parts, List.map_append]

theorem comparisons_alternatives (bind : String → Comparison) : (tree : TermTree) →
    Condition.comparisonsIn (treeConditions bind tree) = (treeTerms tree).map bind
  | [] => rfl
  | parts :: tree => by
    rw [treeConditions, treeTerms, Condition.comparisonsIn, comparisons_together,
      comparisons_parts bind parts, comparisons_alternatives bind tree, List.map_append]

end

/-- The comparisons of a tree are those of its terms, from left to right. -/
theorem comparisons_condition (bind : String → Comparison) (tree : TermTree) :
    (tree.condition bind).comparisons = (treeTerms tree).map bind := by
  rw [TermTree.condition, comparisons_either, comparisons_alternatives]

/-! ## The terms of a tree -/

namespace TermPart

mutual

theorem accepted_of_fits {accepted : String → Bool} : (part : TermPart) →
    part.fits accepted = true → ∀ token ∈ part.terms, accepted token = true
  | .term token, h => by simpa [terms, fits] using h
  | .group alternatives, h => by
    simp only [fits, Bool.and_eq_true] at h
    rw [terms]
    exact accepted_of_treeFits alternatives _ h.2

theorem accepted_of_partsFit {accepted : String → Bool} : (parts : List TermPart) →
    partsFit accepted parts = true → ∀ token ∈ partsTerms parts, accepted token = true
  | [], _ => by simp [partsTerms]
  | part :: parts, h => by
    simp only [partsFit, Bool.and_eq_true] at h
    rw [partsTerms, List.forall_mem_append]
    exact ⟨accepted_of_fits part h.1, accepted_of_partsFit parts h.2⟩

theorem accepted_of_treeFits {accepted : String → Bool} : (tree : TermTree) → (filled : Bool) →
    treeFits accepted filled tree = true → ∀ token ∈ treeTerms tree, accepted token = true
  | [], _, _ => by simp [treeTerms]
  | parts :: tree, filled, h => by
    simp only [treeFits, Bool.and_eq_true] at h
    rw [treeTerms, List.forall_mem_append]
    exact ⟨accepted_of_partsFit parts h.1.1, accepted_of_treeFits tree filled h.2⟩

end

end TermPart

theorem TermTree.Derives.accepts {s : Scope} {tree : TermTree} {tokens : List String}
    (h : tree.Derives s tokens) : ∀ token ∈ treeTerms tree, s.accepts token = true := by
  have hfits := h.fits
  simp only [TermTree.fits, Bool.and_eq_true] at hfits
  exact accepted_of_treeFits tree _ hfits.2

/-! ## The terms among tokens -/

/-- Whether a token is none of the words between terms. -/
def isTermWord (token : String) : Bool := !([orToken, openToken, closeToken].contains token)

theorem isTermWord_of_accepts {s : Scope} {token : String} (h : s.accepts token = true) :
    isTermWord token = true := by
  obtain ⟨hor, hopen, hclose⟩ := ne_of_readTerm (Scope.readTerm_of_accepts h)
  simp [isTermWord, hor, hopen, hclose]

namespace TermPart

mutual

theorem filter_tokens {s : Scope} : (part : TermPart) → part.fits s.accepts = true →
    part.tokens.filter isTermWord = part.terms
  | term token, h => List.filter_cons_of_pos (isTermWord_of_accepts h)
  | group alternatives, h => by
    simp only [fits, Bool.and_eq_true] at h
    have hopen : isTermWord openToken = false := by decide
    have hclose : isTermWord closeToken = false := by decide
    rw [tokens, terms, List.cons_append, List.filter_cons, hopen, List.filter_append,
      filter_treeTokens alternatives _ h.2, List.filter_singleton, hclose]
    exact List.append_nil _

theorem filter_partsTokens {s : Scope} : (parts : List TermPart) →
    partsFit s.accepts parts = true → (partsTokens parts).filter isTermWord = partsTerms parts
  | [], _ => rfl
  | part :: parts, h => by
    simp only [partsFit, Bool.and_eq_true] at h
    rw [partsTokens, partsTerms, List.filter_append, filter_tokens part h.1,
      filter_partsTokens parts h.2]

/-- **The terms of a tree are its tokens without the words of the grammar.** -/
theorem filter_treeTokens {s : Scope} : (tree : TermTree) → (filled : Bool) →
    treeFits s.accepts filled tree = true → (treeTokens tree).filter isTermWord = treeTerms tree
  | [], _, _ => rfl
  | [parts], _, h => by
    simp only [treeFits, Bool.and_eq_true] at h
    rw [treeTokens, treeTerms, treeTerms, List.append_nil, filter_partsTokens parts h.1.1]
  | parts :: next :: alternatives, filled, h => by
    rw [treeFits, Bool.and_eq_true, Bool.and_eq_true] at h
    have hor : isTermWord orToken = false := by decide
    have hrest := filter_treeTokens (next :: alternatives) filled h.2
    rw [treeTokens, treeTerms, List.filter_append, filter_partsTokens parts h.1.1,
      List.filter_cons, hor, if_neg Bool.false_ne_true, hrest]
    exact nofun

end

end TermPart

theorem TermTree.Derives.terms_eq {s : Scope} {tree : TermTree} {tokens : List String}
    (h : tree.Derives s tokens) : TermPart.treeTerms tree = tokens.filter isTermWord := by
  have hfits := h.fits
  simp only [TermTree.fits, Bool.and_eq_true] at hfits
  rw [← h.tokens_eq, TermPart.filter_treeTokens tree _ hfits.2]

end GameLog
