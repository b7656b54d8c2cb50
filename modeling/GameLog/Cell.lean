import GameLog.Binary64.Basic

/-!
# Cells

A cell is what a store keeps in one place of a row: nothing, a 64-bit integer, a number of the
format binary64, a text, or bytes.
-/

namespace GameLog

/-- One value of a stored row. -/
inductive Cell
  | null
  | integer (n : Int)
  | real (x : Binary64)
  | text (s : String)
  | blob (bytes : List UInt8)
deriving DecidableEq, Repr

end GameLog
