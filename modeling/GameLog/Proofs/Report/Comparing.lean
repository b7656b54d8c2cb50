import GameLog.Proofs.Report.Sorted

/-!
# The order of report rows

A report is sorted by a chain of conditions, some of them turned around, on slots that hold nothing, a
number or a text. Of each row a condition reads one value, whatever the width of the row, and values have
a place in one order, not-a-number and both zeros too. So whether rows may be sorted at all comes down to
the order of values.

Main statements:
* `Std.LawfulEqCmp SortValue.compare`: different values have different places;
* `SortCondition.compare_eq_iff`: a condition does not tell two rows apart iff it reads the same of both;
* `compareRows_of_first`: the first condition that tells two rows apart settles their order;
* `compareRows_preorder`: conditions order rows up to ties, and rows tie iff every condition reads the
  same of both.
-/

namespace GameLog

open GameLog.Text

variable {sorts before after : List SortCondition} {a b c : RowValues}

/-! ## Values -/

theorem SortValue.compareText_eq_iff {s t : String} : compareText s t = .eq ↔ s = t := by
  rw [compareText, Ordering.then_eq_eq, Std.LawfulEqOrd.compare_eq_iff_eq,
    Std.LawfulEqOrd.compare_eq_iff_eq]
  exact ⟨And.right, fun h => ⟨congrArg lower h, h⟩⟩

/-- Different values have different places: zeros of either sign, and each not-a-number. -/
instance : Std.LawfulEqCmp SortValue.compare where
  eq_of_compare {v w} h := by
    cases v <;> cases w <;> simp only [SortValue.compare, reduceCtorEq] at h
    case missing.missing => rfl
    case number.number x y =>
      exact congrArg SortValue.number (Binary64.rank_inj (Std.LawfulEqOrd.eq_of_compare h))
    case text.text s t => exact congrArg SortValue.text (SortValue.compareText_eq_iff.1 h)

/-! ## Conditions -/

/-- A condition does not tell two rows apart iff it reads the same of both. -/
theorem SortCondition.compare_eq_iff {s : SortCondition} :
    s.compare a b = .eq ↔ s.field.value a = s.field.value b := by
  unfold SortCondition.compare
  split
  · exact Std.LawfulEqCmp.compare_eq_iff_eq
  · exact Std.LawfulEqCmp.compare_eq_iff_eq.trans eq_comm

theorem compareRows_eq_iff :
    compareRows sorts a b = .eq ↔ ∀ s ∈ sorts, s.field.value a = s.field.value b := by
  induction sorts with
  | nil => simp [compareRows]
  | cons s sorts ih =>
    rw [compareRows, Ordering.then_eq_eq, SortCondition.compare_eq_iff, ih, List.forall_mem_cons]

/-- The first condition that tells two rows apart settles their order, whatever stands behind it. -/
theorem compareRows_of_first {s : SortCondition}
    (hbefore : ∀ t ∈ before, t.field.value a = t.field.value b)
    (hfirst : s.field.value a ≠ s.field.value b) :
    compareRows (before ++ s :: after) a b = s.compare a b := by
  have hties : compareRows before a b = .eq := compareRows_eq_iff.2 hbefore
  have hne : s.compare a b ≠ .eq := fun h => hfirst (SortCondition.compare_eq_iff.1 h)
  rw [compareRows_append, hties, compareRows]
  cases hs : s.compare a b with
  | eq => exact absurd hs hne
  | lt | gt => rfl

/-! ## Rows -/

/-- **Sort conditions order rows up to ties**, whatever the rows hold and however wide they are: a row
ties with itself, turning two rows around turns their order around, and a row that is not behind another
is not behind what that one is not behind. Rows tie only if every condition reads the same of both. -/
theorem compareRows_preorder (sorts : List SortCondition) (a b c : RowValues) :
    compareRows sorts a a = .eq ∧
      compareRows sorts b a = (compareRows sorts a b).swap ∧
      (compareRows sorts a b ≠ .gt → compareRows sorts b c ≠ .gt → compareRows sorts a c ≠ .gt) ∧
      (compareRows sorts a b = .eq ↔ ∀ s ∈ sorts, s.field.value a = s.field.value b) := by
  refine ⟨Std.ReflCmp.compare_self, Std.OrientedCmp.eq_swap, fun hab hbc => ?_, compareRows_eq_iff⟩
  exact Ordering.isLE_iff_ne_gt.1 (Std.TransCmp.isLE_trans
    (Ordering.isLE_iff_ne_gt.2 hab) (Ordering.isLE_iff_ne_gt.2 hbc))

/-- By the ratio of the counts, not-a-number in front, and where both are zero by an extra column turned
around, nothing in front: rows of one slot and of two. -/
theorem compareRows_preorder_mixed :
    let sorts : List SortCondition :=
      [⟨⟨.count, .ratio, "%"⟩, false⟩, ⟨⟨.extra 0, .numerator, "max(turn)"⟩, true⟩]
    let a : RowValues := ⟨.text "Xom", [.number (.notANumber false)], []⟩
    let b : RowValues := ⟨.missing, [.missing, .number (.ofInt 3)], [[]]⟩
    let c : RowValues := ⟨.text "xom", [.number (.zero false)], [[.text "7"]]⟩
    compareRows sorts a b = .lt ∧ compareRows sorts b c = .lt ∧ compareRows sorts a c ≠ .gt := by
  intro sorts a b c
  have hab : compareRows sorts a b = .lt := by decide +kernel
  have hbc : compareRows sorts b c = .lt := by decide +kernel
  exact ⟨hab, hbc, (compareRows_preorder sorts a b c).2.2.1 (by simp [hab]) (by simp [hbc])⟩

end GameLog
