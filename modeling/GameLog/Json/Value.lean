import GameLog.Json.Basic
import GameLog.Json.Written

/-!
# The value of a JSON text

Numbers without a point and a power of ten are whole numbers if they fit 64 bits. Of any other
number, digits are gathered as long as they fit 64 bits and the rest only moves the point; the
number is then one product or quotient with a power of ten, so its last bit may differ from that of
the number nearest to the text. A number too large for the format has no value, nor has a string
with half of a surrogate pair, nor a text nested deeper than 127 levels.
-/

namespace GameLog.Json

open GameLog

/-! ## Numbers -/

/-- Whether a digit can still be put behind digits gathered in 64 bits. -/
def fits (gathered : Nat) (digit : Nat) : Bool := gathered * 10 + digit < 0x10000000000000000

/-- The value of an ASCII digit. -/
def digitValue (c : Char) : Nat := c.toNat - 48

/-- Digits before the point gathered one after another; from the first one that does not fit on,
they are only counted. -/
def gatherWhole (gathered : Nat) : List Char → Nat × Nat
  | [] => (gathered, 0)
  | c :: cs =>
    if fits gathered (digitValue c) then gatherWhole (gathered * 10 + digitValue c) cs
    else (gathered, cs.length + 1)

/-- Digits behind the point gathered one after another and counted; from the first one that does not
fit on, they are left out. -/
def gatherPlaces (gathered count : Nat) : List Char → Nat × Nat
  | [] => (gathered, count)
  | c :: cs =>
    if fits gathered (digitValue c) then
      gatherPlaces (gathered * 10 + digitValue c) (count + 1) cs
    else (gathered, count)

/-- Ten to a power, as the nearest number of the format. -/
def powerOfTen (n : Nat) : Binary64 := .ofRatio false (Binary64.tenTo n) 1

/-- The quotient by a power of ten, taken in steps of at most 308 of its zeros. -/
def shiftDown (x : Binary64) (places : Nat) : Binary64 :=
  if places ≤ 308 then x.div (powerOfTen places)
  else if x.isZero then x
  else shiftDown (x.div (powerOfTen 308)) (places - 308)
termination_by places

/-- The product of gathered digits with a power of ten, if it is finite. -/
def scale? (gathered : Nat) (power : Int) : Option Binary64 :=
  let x := Binary64.ofInt gathered
  if power < 0 then some (shiftDown x power.natAbs)
  else if power ≤ 308 then
    let y := x.mul (powerOfTen power.toNat)
    if y.isInfinite then none else some y
  else if gathered = 0 then some x
  else none

/-- The value of the digits of a power of ten, unless it leaves the range of 32 bits. -/
def powerValue? (cs : List Char) : Option Nat :=
  cs.foldl (fun n c => n.bind fun n =>
    if n * 10 + digitValue c < 0x80000000 then some (n * 10 + digitValue c) else none) (some 0)

/-- The end of a range that a whole number lies beyond, or the number itself. -/
def saturated (n : Int) : Int := max (-0x80000000) (min 0x7FFFFFFF n)

/-- The magnitude of a number with a point or a power of ten, or of one that does not fit 64 bits.
-/
def realMagnitude? (n : Numeral) : Option Binary64 :=
  let (whole, dropped) := gatherWhole 0 n.whole
  let (gathered, places) := gatherPlaces whole 0 n.places
  let start : Int := dropped - places
  if n.power.isEmpty then scale? gathered start
  else match powerValue? n.power with
    | some p => scale? gathered (saturated (if n.powerNegative then start - p else start + p))
    | none => if gathered ≠ 0 && !n.powerNegative then none else some (.zero false)

/-- The value of a number as written. -/
def Numeral.value? (n : Numeral) : Option JsonNumber :=
  let (whole, dropped) := gatherWhole 0 n.whole
  if n.places.isEmpty && n.power.isEmpty && dropped = 0 then
    if !n.negative then some (.whole whole)
    else if 0 < whole && whole ≤ 0x8000000000000000 then some (.whole (-(whole : Int)))
    else some (.real (Binary64.ofInt whole).neg)
  else (realMagnitude? n).map fun x => .real (if n.negative then x.neg else x)

/-! ## Strings -/

/-- Whether a code unit is the first half of a pair. -/
def isHigh (code : Nat) : Bool := 0xD800 ≤ code && code < 0xDC00

/-- Whether a code unit is the second half of a pair. -/
def isLow (code : Nat) : Bool := 0xDC00 ≤ code && code < 0xE000

/-- The characters of a string as written. -/
def pieceChars? : List Piece → Option (List Char)
  | [] => some []
  | .char c :: rest => (pieceChars? rest).map (c :: ·)
  | .unit code :: rest =>
    if isHigh code then
      match rest with
      | .unit next :: rest =>
        if isLow next then
          (pieceChars? rest).map
            (Char.ofNat (0x10000 + (code - 0xD800) * 0x400 + (next - 0xDC00)) :: ·)
        else none
      | _ => none
    else if isLow code then none
    else (pieceChars? rest).map (Char.ofNat code :: ·)

/-- The string of its pieces. -/
def pieceText? (pieces : List Piece) : Option String := (pieceChars? pieces).map String.ofList

/-! ## Values -/

mutual

/-- The value of a text by its structure, which may go down so many levels and one. -/
def Written.valueIn? (levels : Nat) : Written → Option Json
  | .null => some .null
  | .bool b => some (.bool b)
  | .number n => n.value?.map .number
  | .string s => (pieceText? s).map .string
  | .array items => if levels = 0 then none else (itemsIn? (levels - 1) items).map .array
  | .object fields => if levels = 0 then none else (fieldsIn? (levels - 1) fields).map ofFields

/-- The values of the items of an array. -/
def itemsIn? (levels : Nat) : List Written → Option (List Json)
  | [] => some []
  | item :: items => do
    let item ← item.valueIn? levels
    let items ← itemsIn? levels items
    return item :: items

/-- The values of the fields of an object. -/
def fieldsIn? (levels : Nat) : List (List Piece × Written) → Option (List (String × Json))
  | [] => some []
  | (name, value) :: fields => do
    let name ← pieceText? name
    let value ← value.valueIn? levels
    let fields ← fieldsIn? levels fields
    return (name, value) :: fields

end

/-- How deep arrays and objects may be nested. -/
def maxDepth : Nat := 127

/-- The value of a text. -/
def read? (s : String) : Option Json := do (← Written.read? s).valueIn? maxDepth

end GameLog.Json
