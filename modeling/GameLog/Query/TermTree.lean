import GameLog.Query.Term
import GameLog.Statement.Truth

/-!
# The grammar of terms

Terms have the structure of a tree. An expression is one alternative or several with `||` between
them, an alternative is any number of parts beside each other, and a part is a term or an expression
between `((` and `))`. Where there are several alternatives, each has a term in it.

Main statements:
* `areEmpty_treeConditions`: a condition says something exactly if there is a term in the
  expression;
* `TermTree.holds_condition`: the condition of an expression holds exactly if the expression does.
-/

namespace GameLog

/-! ## Trees -/

/-- A part of an alternative. -/
inductive TermPart
  | term (token : String)
  | group (alternatives : List (List TermPart))
deriving Repr

/-- An expression by its alternatives. -/
abbrev TermTree := List (List TermPart)

namespace TermPart

mutual

/-- The tokens of a part. -/
def tokens : TermPart → List String
  | term token => [token]
  | group alternatives => openToken :: treeTokens alternatives ++ [closeToken]

/-- The tokens of an alternative. -/
def partsTokens : List TermPart → List String
  | [] => []
  | part :: parts => part.tokens ++ partsTokens parts

/-- The tokens of an expression. -/
def treeTokens : TermTree → List String
  | [] => []
  | [parts] => partsTokens parts
  | parts :: alternatives => partsTokens parts ++ orToken :: treeTokens alternatives

end

mutual

/-- The terms of a part from left to right. -/
def terms : TermPart → List String
  | term token => [token]
  | group alternatives => treeTerms alternatives

/-- The terms of an alternative from left to right. -/
def partsTerms : List TermPart → List String
  | [] => []
  | part :: parts => part.terms ++ partsTerms parts

/-- The terms of an expression from left to right. -/
def treeTerms : TermTree → List String
  | [] => []
  | parts :: alternatives => partsTerms parts ++ treeTerms alternatives

end

mutual

/-- Whether a part holds, given which terms do. -/
def holds (value : String → Bool) : TermPart → Bool
  | term token => value token
  | group alternatives => treeHolds value alternatives

/-- Whether all parts of an alternative hold. -/
def partsHold (value : String → Bool) : List TermPart → Bool
  | [] => true
  | part :: parts => part.holds value && partsHold value parts

/-- Whether an alternative of an expression holds. -/
def treeHolds (value : String → Bool) : TermTree → Bool
  | [] => false
  | parts :: alternatives => partsHold value parts || treeHolds value alternatives

end

mutual

/-- Whether a part keeps to the grammar: terms are accepted, an expression has an alternative, and
of several alternatives each has a term in it. -/
def fits (accepted : String → Bool) : TermPart → Bool
  | term token => accepted token
  | group alternatives =>
    !alternatives.isEmpty && treeFits accepted (1 < alternatives.length) alternatives

/-- Whether all parts of an alternative keep to the grammar. -/
def partsFit (accepted : String → Bool) : List TermPart → Bool
  | [] => true
  | part :: parts => part.fits accepted && partsFit accepted parts

/-- Whether all alternatives keep to the grammar, with a term in each if that is asked for. -/
def treeFits (accepted : String → Bool) (filled : Bool) : TermTree → Bool
  | [] => true
  | parts :: alternatives =>
    partsFit accepted parts && (!filled || !(partsTerms parts).isEmpty) &&
      treeFits accepted filled alternatives

end

/-- The condition of alternatives. -/
def either : List Condition → Condition
  | [alternative] => alternative
  | alternatives => .joined .or alternatives

mutual

/-- The condition of a part, given what its terms are bound to. -/
def condition (bind : String → Comparison) : TermPart → Condition
  | term token => .compare (bind token)
  | group alternatives => either (treeConditions bind alternatives)

/-- The conditions of the parts of an alternative. -/
def partsConditions (bind : String → Comparison) : List TermPart → List Condition
  | [] => []
  | part :: parts => part.condition bind :: partsConditions bind parts

/-- The conditions of the alternatives of an expression. -/
def treeConditions (bind : String → Comparison) : TermTree → List Condition
  | [] => []
  | parts :: alternatives =>
    TermLevel.together (partsConditions bind parts) :: treeConditions bind alternatives

end

end TermPart

namespace TermTree

open TermPart

/-- Whether an expression keeps to the grammar. -/
def fits (accepted : String → Bool) (tree : TermTree) : Bool :=
  !tree.isEmpty && treeFits accepted (1 < tree.length) tree

/-- The condition of an expression. -/
def condition (bind : String → Comparison) (tree : TermTree) : Condition :=
  either (treeConditions bind tree)

end TermTree

/-! ## Trees without terms -/

namespace TermPart

theorem isEmpty_together (parts : List Condition) :
    (TermLevel.together parts).isEmpty = Condition.areEmpty parts := by
  rcases parts with _ | ⟨part, _ | ⟨next, rest⟩⟩ <;>
    simp [TermLevel.together, Condition.isEmpty, Condition.areEmpty]

theorem isEmpty_either (alternatives : List Condition) :
    (either alternatives).isEmpty = Condition.areEmpty alternatives := by
  rcases alternatives with _ | ⟨first, _ | ⟨next, rest⟩⟩ <;>
    simp [either, Condition.isEmpty, Condition.areEmpty]

mutual

theorem isEmpty_condition (bind : String → Comparison) : (part : TermPart) →
    (part.condition bind).isEmpty = part.terms.isEmpty
  | term token => by simp [condition, terms, Condition.isEmpty]
  | group alternatives => by
    rw [condition, terms, isEmpty_either, areEmpty_treeConditions bind alternatives]

theorem areEmpty_partsConditions (bind : String → Comparison) : (parts : List TermPart) →
    Condition.areEmpty (partsConditions bind parts) = (partsTerms parts).isEmpty
  | [] => rfl
  | part :: parts => by
    rw [partsConditions, partsTerms, Condition.areEmpty, isEmpty_condition bind part,
      areEmpty_partsConditions bind parts]
    cases part.terms <;> rfl

/-- An expression says nothing exactly if there is no term in it. -/
theorem areEmpty_treeConditions (bind : String → Comparison) : (tree : TermTree) →
    Condition.areEmpty (treeConditions bind tree) = (treeTerms tree).isEmpty
  | [] => rfl
  | parts :: tree => by
    rw [treeConditions, treeTerms, Condition.areEmpty, isEmpty_together,
      areEmpty_partsConditions bind parts, areEmpty_treeConditions bind tree]
    cases partsTerms parts <;> rfl

end

theorem isEmpty_of_mem_treeConditions {accepted : String → Bool} {bind : String → Comparison}
    {tree : TermTree} (h : treeFits accepted true tree = true) :
    ∀ c ∈ treeConditions bind tree, c.isEmpty = false := by
  induction tree with
  | nil => simp [treeConditions]
  | cons parts tree ih =>
    simp only [treeFits, Bool.not_true, Bool.false_or, Bool.and_eq_true] at h
    simp only [treeConditions, List.mem_cons, forall_eq_or_imp]
    refine ⟨?_, ih h.2⟩
    rw [isEmpty_together, areEmpty_partsConditions]
    simpa using h.1.2

theorem length_treeConditions (bind : String → Comparison) (tree : TermTree) :
    (treeConditions bind tree).length = tree.length := by
  induction tree with
  | nil => rfl
  | cons parts tree ih => simp [treeConditions, ih]

/-! ## What trees mean -/

/-- Parts together hold exactly if each does. -/
theorem holds_together (a : Assignment) (parts : List Condition) :
    (TermLevel.together parts).holds a = parts.all (·.holds a) := by
  have all : ∀ parts : List Condition, Condition.allHold a parts = parts.all (·.holds a) := by
    intro parts
    induction parts with
    | nil => rfl
    | cons part parts ih =>
      by_cases h : part.isEmpty = true
      · simp [Condition.allHold, ih, h, Condition.holds_of_isEmpty a h]
      · simp [Condition.allHold, ih, h]
  rcases parts with _ | ⟨part, _ | ⟨next, rest⟩⟩
  · rfl
  · simp [TermLevel.together]
  · exact all _

/-- Of several alternatives that say something, one holds. -/
theorem holds_either (a : Assignment) {alternatives : List Condition} (hne : alternatives ≠ [])
    (h : 1 < alternatives.length → ∀ c ∈ alternatives, c.isEmpty = false) :
    (either alternatives).holds a = alternatives.any (·.holds a) := by
  have any : ∀ parts : List Condition, (∀ c ∈ parts, c.isEmpty = false) →
      Condition.anyHolds a parts = parts.any (·.holds a) := by
    intro parts hp
    induction parts with
    | nil => rfl
    | cons part parts ih =>
      simp [Condition.anyHolds, hp part (by simp), ih fun c hc => hp c (by simp [hc])]
  rcases alternatives with _ | ⟨first, _ | ⟨next, rest⟩⟩
  · exact absurd rfl hne
  · simp [either]
  · have h := h (by simp)
    have he : Condition.areEmpty (first :: next :: rest) = false := by
      simp [Condition.areEmpty, h first (by simp)]
    change (Condition.joined .or (first :: next :: rest)).holds a = _
    rw [Condition.holds, he, any _ h]
    rfl

mutual

/-- The condition of a part holds exactly if the part does. -/
theorem holds_condition (a : Assignment) (bind : String → Comparison) {accepted : String → Bool} :
    (part : TermPart) → part.fits accepted = true →
      (part.condition bind).holds a = part.holds fun token => a.comparison (bind token)
  | term token, _ => by simp [condition, Condition.holds, holds]
  | group alternatives, h => by
    simp only [fits, Bool.and_eq_true] at h
    rw [condition, holds_treeConditions a bind alternatives (by simpa using h.1) h.2, holds]

theorem holds_partsConditions (a : Assignment) (bind : String → Comparison)
    {accepted : String → Bool} : (parts : List TermPart) → partsFit accepted parts = true →
      (partsConditions bind parts).all (·.holds a) =
        partsHold (fun token => a.comparison (bind token)) parts
  | [], _ => rfl
  | part :: parts, h => by
    simp only [partsFit, Bool.and_eq_true] at h
    simp [partsConditions, partsHold, holds_condition a bind part h.1,
      holds_partsConditions a bind parts h.2]

theorem any_treeConditions (a : Assignment) (bind : String → Comparison)
    {accepted : String → Bool} : (tree : TermTree) → (filled : Bool) →
      treeFits accepted filled tree = true → (treeConditions bind tree).any (·.holds a) =
        treeHolds (fun token => a.comparison (bind token)) tree
  | [], _, _ => rfl
  | parts :: tree, filled, h => by
    simp only [treeFits, Bool.and_eq_true] at h
    simp [treeConditions, treeHolds, holds_together, holds_partsConditions a bind parts h.1.1,
      any_treeConditions a bind tree filled h.2]

/-- The condition of alternatives holds exactly if one of them does. -/
theorem holds_treeConditions (a : Assignment) (bind : String → Comparison)
    {accepted : String → Bool} (tree : TermTree) (hne : tree ≠ [])
    (h : treeFits accepted (1 < tree.length) tree = true) :
    (either (treeConditions bind tree)).holds a =
      treeHolds (fun token => a.comparison (bind token)) tree := by
  rw [holds_either, any_treeConditions a bind tree _ h]
  · intro hc
    have := length_treeConditions bind tree
    rw [hc] at this
    exact hne (List.length_eq_zero_iff.1 this.symm)
  · intro hlen
    rw [length_treeConditions] at hlen
    exact isEmpty_of_mem_treeConditions (by simpa [hlen] using h)

end

end TermPart

namespace TermTree

/-- Whether an expression holds, given which terms do. -/
def holds (value : String → Bool) (tree : TermTree) : Bool := TermPart.treeHolds value tree

/-- The condition of an expression holds exactly if the expression does. -/
theorem holds_condition (a : Assignment) (bind : String → Comparison) {accepted : String → Bool}
    {tree : TermTree} (h : tree.fits accepted = true) :
    (tree.condition bind).holds a = tree.holds fun token => a.comparison (bind token) := by
  simp only [fits, Bool.and_eq_true] at h
  exact TermPart.holds_treeConditions a bind tree (by simpa using h.1) h.2

end TermTree

end GameLog
