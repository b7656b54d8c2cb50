import GameLog.Binary64.Numeral
import GameLog.Catalog.Kind
import GameLog.Cell
import GameLog.Decimal.Places
import GameLog.Text.Utf8
import GameLog.Time.Duration
import GameLog.Time.Reading

/-!
# Showing cells

How replies show a cell: numbers with two places at most, bytes as text, nothing as no text; dates
in their stored form and the duration of a game in hours, minutes and seconds.
-/

namespace GameLog

open GameLog.Text

namespace Cell

/-- The text of a cell. -/
def shown : Cell → String
  | null => ""
  | integer n => intText n
  | real x => Decimal.shortPlaces x
  | text s => s
  | blob bytes => bytesText bytes

/-- The number of a cell: zero if it has none. -/
def asNumber : Cell → Binary64
  | null => .zero false
  | integer n => .ofInt n
  | real x => x
  | text s => (Binary64.read? (trim s)).getD (.zero false)
  | blob _ => .zero false

/-- The name of the field that holds durations. -/
def durationField : String := "dur"

/-- The text of a cell as the value of a field. -/
def shownAs (name : String) (kind : Option Kind) (cell : Cell) : String :=
  match cell with
  | integer n => if name = durationField then Time.durationText n else cell.shown
  | text s => if kind = some .date then Time.pretty s else cell.shown
  | _ => cell.shown

end Cell

/-- A hundred. -/
def hundred : Binary64 := .ofInt 100

/-- The share of a number in another one as a percentage, a dash if that is zero. -/
def percentage (num den : Binary64) : String :=
  if den.isZero then "-" else Decimal.twoPlaces ((num.mul hundred).div den) ++ "%"

/-- The word for so many things: with an `s` unless there is exactly one. -/
def plural (word : String) (count : Int) : String := if count = 1 then word else word ++ "s"

end GameLog
