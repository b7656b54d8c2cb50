import GameLog.Decimal.Shortest
import GameLog.Json.Basic
import GameLog.Text.Basic
import GameLog.Text.Numeral

/-!
# Writing JSON

Values are written without spaces, or over several lines with two spaces for each level. Numbers of
the format binary64 have the fewest digits that read back.
-/

namespace GameLog.Json

open GameLog GameLog.Text

/-! ## Numbers -/

/-- How numbers are laid out: where plain notation ends on either side, counted in digits before the
point, and what a plain number without places gets behind it. -/
structure NumberLayout where
  leastPoint : Int
  mostPoint : Int
  wholeTail : String

/-- Numbers from 0.00001 up to below 10 to the 16 are plain and have one place at least. -/
def numberLayout : NumberLayout := ⟨-4, 16, ".0"⟩

/-- So many zeros. -/
def zeros (n : Nat) : String := String.ofList (List.replicate n '0')

/-- Digits in scientific notation: one of them before the point, and a signed power of ten. -/
def scientificText (digits : List Char) (power : Int) : String :=
  String.ofList (digits.take 1) ++ (if digits.length ≤ 1 then "" else ".") ++
    String.ofList (digits.drop 1) ++ "e" ++ (if power < 0 then "-" else "+") ++ natText power.natAbs

/-- Digits with a point behind so many of them, which may lie outside them. -/
def plainText (layout : NumberLayout) (digits : List Char) (point : Int) : String :=
  if point ≤ 0 then "0." ++ zeros (-point).toNat ++ String.ofList digits
  else if digits.length ≤ point.toNat then
    String.ofList digits ++ zeros (point.toNat - digits.length) ++ layout.wholeTail
  else
    String.ofList (digits.take point.toNat) ++ "." ++ String.ofList (digits.drop point.toNat)

/-- A finite number. -/
def realText (layout : NumberLayout) (x : Binary64) : String :=
  let sign := if x.negative then "-" else ""
  let s := Decimal.shortest x
  let digits := Nat.toDigits 10 s.digits
  let point := digits.length + s.power
  if x.isZero then sign ++ "0" ++ layout.wholeTail
  else if layout.leastPoint ≤ point && point ≤ layout.mostPoint then
    sign ++ plainText layout digits point
  else sign ++ scientificText digits (point - 1)

/-- A number. -/
def numberText : JsonNumber → String
  | .whole n => intText n
  | .real x => realText numberLayout x

/-! ## Strings -/

/-- A digit of a number below 16. -/
def hexDigit (n : Nat) : Char := Nat.digitChar n

/-- A character inside a string. -/
def charText (c : Char) : List Char :=
  if c = '"' then ['\\', '"']
  else if c = '\\' then ['\\', '\\']
  else if c = '\x08' then ['\\', 'b']
  else if c = '\x0c' then ['\\', 'f']
  else if c = '\n' then ['\\', 'n']
  else if c = '\r' then ['\\', 'r']
  else if c = '\t' then ['\\', 't']
  else if c.toNat < 0x20 then
    ['\\', 'u', '0', '0', hexDigit (c.toNat / 16), hexDigit (c.toNat % 16)]
  else [c]

/-- A string with its quotes. -/
def stringText (s : String) : String :=
  String.ofList ('"' :: (s.toList.flatMap charText) ++ ['"'])

/-! ## Values -/

mutual

/-- A value without spaces. -/
def compact : Json → String
  | .null => "null"
  | .bool b => if b then "true" else "false"
  | .number n => numberText n
  | .string s => stringText s
  | .array items => "[" ++ joinWith "," (compactItems items) ++ "]"
  | .object fields => "\x7b" ++ joinWith "," (compactFields fields) ++ "\x7d"

/-- The items of an array, each without spaces. -/
def compactItems : List Json → List String
  | [] => []
  | item :: items => compact item :: compactItems items

/-- The fields of an object, each without spaces. -/
def compactFields : List (String × Json) → List String
  | [] => []
  | (name, value) :: fields => (stringText name ++ ":" ++ compact value) :: compactFields fields

end

/-- Parts on lines of their own between brackets, indented one level more than those. -/
def block (opening closing : String) (level : Nat) (parts : List String) : String :=
  let line (level : Nat) := "\n" ++ String.ofList (List.replicate (2 * level) ' ')
  if parts.isEmpty then opening ++ closing
  else
    opening ++ line (level + 1) ++ joinWith ("," ++ line (level + 1)) parts ++ line level ++ closing

mutual

/-- A value over several lines, inside so many levels. -/
def prettyIn (level : Nat) : Json → String
  | .array items => block "[" "]" level (prettyItems level items)
  | .object fields => block "\x7b" "\x7d" level (prettyFields level fields)
  | .null => "null"
  | .bool b => if b then "true" else "false"
  | .number n => numberText n
  | .string s => stringText s

/-- The items of an array over several lines. -/
def prettyItems (level : Nat) : List Json → List String
  | [] => []
  | item :: items => prettyIn (level + 1) item :: prettyItems level items

/-- The fields of an object over several lines. -/
def prettyFields (level : Nat) : List (String × Json) → List String
  | [] => []
  | (name, value) :: fields =>
    (stringText name ++ ": " ++ prettyIn (level + 1) value) :: prettyFields level fields

end

/-- A value over several lines. -/
def pretty (value : Json) : String := prettyIn 0 value

end GameLog.Json
