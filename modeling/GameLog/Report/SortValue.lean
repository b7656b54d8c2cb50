import GameLog.Binary64.Numeral
import GameLog.Text.Basic

/-!
# Values that reports sort by

A slot of a report row holds nothing, a number or a text. Nothing stands below all numbers, and
numbers stand below all texts; numbers are ordered by their place in the format, texts without
regard to letter case first.

Main statements:
* `compare_self`, `compare_swap`, `compare_trans`: this is a total order up to equal places.
-/

namespace GameLog

open GameLog.Text

/-- A value that reports sort by. -/
inductive SortValue
  | missing
  | number (x : Binary64)
  | text (s : String)
deriving DecidableEq, Repr

namespace SortValue

/-- The number of a value: zero if there is none. -/
def asNumber : SortValue → Binary64
  | missing => .zero false
  | number x => x
  | text s => (Binary64.read? (trim s)).getD (.zero false)

/-- Texts in order: without regard to letter case, and exactly if that does not tell them apart. -/
def compareText (a b : String) : Ordering := (compare (lower a) (lower b)).then (compare a b)

/-- The order of values. -/
def compare : SortValue → SortValue → Ordering
  | missing, missing => .eq
  | missing, _ => .lt
  | _, missing => .gt
  | number a, number b => Ord.compare a.rank b.rank
  | number _, text _ => .lt
  | text _, number _ => .gt
  | text a, text b => compareText a b

/-! ## The order is total -/

instance : Std.TransCmp compareText :=
  inferInstanceAs (Std.TransCmp (compareLex (compareOn lower) fun a b => Ord.compare a b))

/-- A value has the place of itself. -/
@[simp] theorem compare_self (v : SortValue) : v.compare v = .eq := by
  cases v with
  | missing => rfl
  | number x => exact (Std.ReflCmp.compare_self : Ord.compare x.rank x.rank = .eq)
  | text s => exact (Std.ReflCmp.compare_self : compareText s s = .eq)

/-- The order of two values, turned around. -/
theorem compare_swap (v w : SortValue) : (v.compare w).swap = w.compare v := by
  cases v <;> cases w
  case number.number x y =>
    exact (Std.OrientedCmp.eq_swap : Ord.compare y.rank x.rank = _).symm
  case text.text s t => exact (Std.OrientedCmp.eq_swap : compareText t s = _).symm
  all_goals rfl

/-- A value that is not above another is not above what that one is not above. -/
theorem compare_trans {u v w : SortValue} (h : (u.compare v).isLE = true)
    (h' : (v.compare w).isLE = true) : (u.compare w).isLE = true := by
  cases u <;> cases v <;> cases w <;> simp only [compare, Ordering.isLE] at h h' ⊢ <;>
    try contradiction
  case number.number.number x y z => exact Std.TransCmp.isLE_trans h h'
  case text.text.text s t u => exact Std.TransCmp.isLE_trans h h'

instance : Std.TransCmp compare where
  eq_swap := (compare_swap _ _).symm
  isLE_trans := compare_trans

end SortValue

/-- The values of a report row: its key, its counts, and the values of each extra column, both with
one slot for each query. -/
structure RowValues where
  key : SortValue
  counts : List SortValue
  extras : List (List SortValue)
deriving DecidableEq, Repr

end GameLog
