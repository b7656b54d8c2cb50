/-!
# Sets of characters given by ranges

A character class of the Unicode standard is a list of ranges of code points, both ends included.

Main statements:
* `mem_iff`: the test finds exactly the code points of some range;
* `not_mem_of_disjoint`: no code point lies in both of two disjoint sets.
-/

namespace GameLog.Text

/-- A set of code points as a list of ranges, both ends included. -/
abbrev CharSet := List (Nat × Nat)

/-- Whether a code point lies in one of the ranges. -/
def CharSet.mem (set : CharSet) (code : Nat) : Bool :=
  set.any fun range => range.1 ≤ code && code ≤ range.2

/-- The test finds exactly the code points that some range encloses. -/
theorem CharSet.mem_iff {set : CharSet} {code : Nat} :
    set.mem code = true ↔ ∃ range ∈ set, range.1 ≤ code ∧ code ≤ range.2 := by
  simp [CharSet.mem]

/-- Whether each range of one set lies below or above each range of another. -/
def CharSet.disjoint (a b : CharSet) : Bool :=
  a.all fun r => b.all fun s => r.2 < s.1 || s.2 < r.1

/-- No code point lies in both of two disjoint sets. -/
theorem CharSet.not_mem_of_disjoint {a b : CharSet} (h : a.disjoint b = true) {code : Nat}
    (ha : a.mem code = true) : b.mem code = false := by
  obtain ⟨r, hr, hr₁, hr₂⟩ := mem_iff.1 ha
  rw [Bool.eq_false_iff, Ne, mem_iff]
  rintro ⟨s, hs, hs₁, hs₂⟩
  simp only [disjoint, List.all_eq_true] at h
  have := h r hr s hs
  simp only [Bool.or_eq_true, decide_eq_true_eq] at this
  omega

end GameLog.Text
