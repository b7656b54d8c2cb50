import GameLog.CellText
import GameLog.Statement.Condition
import GameLog.Text.Pattern

/-!
# Comparing cells

A store orders nothing before numbers, numbers before texts, and texts before bytes; numbers by
their value, texts and bytes by what they are made of. A comparison with nothing is never true,
whichever way it goes.
Main statement: `compares_null`.
-/

namespace GameLog

open GameLog.Text

namespace Cell

/-- The place of the sort of a cell among the sorts. -/
def sortPlace : Cell → Nat
  | null => 0
  | integer _ => 1
  | real _ => 1
  | text _ => 2
  | blob _ => 3

/-- The number of a cell as a multiple of a power of two. -/
def scaled : Cell → Int × Int
  | integer n => (n, 0)
  | real x => (if x.negative then -(x.significand : Int) else x.significand, x.exponent)
  | _ => (0, 0)

/-- The order of two multiples of powers of two. -/
def compareScaled (a b : Int × Int) : Ordering :=
  let e := min a.2 b.2
  compare (a.1 <<< (a.2 - e).toNat) (b.1 <<< (b.2 - e).toNat)

/-- The order of two cells in a store. -/
def order : Cell → Cell → Ordering
  | text a, text b => compare a b
  | blob a, blob b => compare (a.map UInt8.toNat) (b.map UInt8.toNat)
  | a, b => (compare a.sortPlace b.sortPlace).then (compareScaled a.scaled b.scaled)

/-- Whether two cells stand at one place of the order. -/
def sameAs (a b : Cell) : Bool := a.order b == .eq

/-- Whether a text matches a pattern, in any letter case. -/
def likes (pattern value : Cell) : Bool :=
  matchesPattern sameLetter pattern.shown.toList value.shown.toList

end Cell

/-- Whether a comparison holds of a value that is there and one that it is compared with. -/
def Comparator.holdsOf (op : Comparator) (value other : Cell) : Bool :=
  match op with
  | eq => value.order other == .eq
  | ne => value.order other != .eq
  | lt => value.order other == .lt
  | gt => value.order other == .gt
  | le => value.order other != .gt
  | ge => value.order other != .lt
  | like => other.likes value
  | notLike => !other.likes value

/-- Whether a comparison of two cells is true. -/
def Comparator.compares (op : Comparator) (value other : Cell) : Bool :=
  value != .null && other != .null && op.holdsOf value other

/-- A comparison with nothing is never true. -/
theorem Comparator.compares_null (op : Comparator) (value other : Cell)
    (h : value = .null ∨ other = .null) : op.compares value other = false := by
  rcases h with rfl | rfl <;> simp [compares]

end GameLog
