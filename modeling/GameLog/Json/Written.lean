/-!
# JSON as written

The grammar of JSON, before numbers and escapes are given values: a number is its digits, a string
is its characters and escaped code units. A text that follows the grammar may still have no value,
for instance if an escaped code unit is half of a pair; parts of a document that nobody asks for
need to follow the grammar only.
-/

namespace GameLog.Json

/-- A number as written: its digits before the point, behind it, and in the power of ten. -/
structure Numeral where
  negative : Bool
  whole : List Char
  places : List Char
  powerNegative : Bool
  power : List Char
deriving DecidableEq, Repr

/-- A part of a string as written: a character, or a code unit given by its number. -/
inductive Piece
  | char (c : Char)
  | unit (code : Nat)
deriving DecidableEq, Repr

/-- A JSON text by its structure. -/
inductive Written
  | null
  | bool (b : Bool)
  | number (n : Numeral)
  | string (s : List Piece)
  | array (items : List Written)
  | object (fields : List (List Piece × Written))
deriving Repr

/-! ## Blanks and words -/

/-- The characters that may stand between the parts of a text. -/
def isSpace (c : Char) : Bool := c == ' ' || c == '\n' || c == '\t' || c == '\r'

/-- The text without spaces in front of it. -/
def skipSpace (cs : List Char) : List Char := cs.dropWhile isSpace

/-- The text behind a given word. -/
def afterWord? (word cs : List Char) : Option (List Char) :=
  if word.isPrefixOf cs then some (cs.drop word.length) else none

/-! ## Numbers -/

/-- The digits in front of a text, and the text behind them. -/
def takeDigits (cs : List Char) : List Char × List Char :=
  (cs.takeWhile Char.isDigit, cs.dropWhile Char.isDigit)

/-- The places behind a point, if there is a point. -/
def takePlaces? : List Char → Option (List Char × List Char)
  | '.' :: cs => if (takeDigits cs).1.isEmpty then none else some (takeDigits cs)
  | cs => some ([], cs)

/-- The sign and digits of the power of ten, if there is one. -/
def takePower? : List Char → Option (Bool × List Char × List Char)
  | [] => some (false, [], [])
  | c :: cs =>
    if c = 'e' || c = 'E' then
      let (negative, cs) := match cs with
        | '-' :: cs => (true, cs)
        | '+' :: cs => (false, cs)
        | cs => (false, cs)
      if (takeDigits cs).1.isEmpty then none
      else some (negative, (takeDigits cs).1, (takeDigits cs).2)
    else some (false, [], c :: cs)

/-- A number in front of a text. A zero in front of other digits is refused. -/
def takeNumber? (cs : List Char) : Option (Numeral × List Char) := do
  let (negative, cs) := match cs with
    | '-' :: cs => (true, cs)
    | cs => (false, cs)
  let (whole, cs) := takeDigits cs
  guard (!whole.isEmpty && (whole.head? != some '0' || whole.length == 1))
  let (places, cs) ← takePlaces? cs
  let (powerNegative, power, cs) ← takePower? cs
  return (⟨negative, whole, places, powerNegative, power⟩, cs)

/-! ## Strings -/

/-- The value of a hexadecimal digit. -/
def hexValue? (c : Char) : Option Nat :=
  if c.isDigit then some (c.toNat - 48)
  else if 'a' ≤ c && c ≤ 'f' then some (c.toNat - 87)
  else if 'A' ≤ c && c ≤ 'F' then some (c.toNat - 55)
  else none

/-- The character that a letter behind a backslash stands for. -/
def escaped? : Char → Option Char
  | '"' => some '"'
  | '\\' => some '\\'
  | '/' => some '/'
  | 'b' => some '\x08'
  | 'f' => some '\x0c'
  | 'n' => some '\n'
  | 'r' => some '\r'
  | 't' => some '\t'
  | _ => none

/-- The pieces of a string up to its closing quote, and the text behind it. -/
def takeString? : List Char → Option (List Piece × List Char)
  | [] => none
  | '"' :: cs => some ([], cs)
  | '\\' :: 'u' :: a :: b :: c :: d :: cs => do
    let high := (← hexValue? a) * 16 + (← hexValue? b)
    let code := high * 256 + (← hexValue? c) * 16 + (← hexValue? d)
    let (pieces, rest) ← takeString? cs
    return (.unit code :: pieces, rest)
  | '\\' :: e :: cs => do
    let c ← escaped? e
    let (pieces, rest) ← takeString? cs
    return (.char c :: pieces, rest)
  | c :: cs => do
    guard (0x20 ≤ c.toNat && c != '\\')
    let (pieces, rest) ← takeString? cs
    return (.char c :: pieces, rest)

/-! ## Values -/

mutual

/-- A value in front of a text. The first argument bounds the depth of the descent. -/
def takeValue? : Nat → List Char → Option (Written × List Char)
  | 0, _ => none
  | fuel + 1, cs =>
    match skipSpace cs with
    | '"' :: cs => (takeString? cs).map fun (s, cs) => (.string s, cs)
    | '[' :: cs =>
      match skipSpace cs with
      | ']' :: cs => some (.array [], cs)
      | cs => (takeItems? fuel cs).map fun (items, cs) => (.array items, cs)
    | '\x7b' :: cs =>
      match skipSpace cs with
      | '\x7d' :: cs => some (.object [], cs)
      | cs => (takeFields? fuel cs).map fun (fields, cs) => (.object fields, cs)
    | 'n' :: cs => (afterWord? ['u', 'l', 'l'] cs).map fun cs => (.null, cs)
    | 't' :: cs => (afterWord? ['r', 'u', 'e'] cs).map fun cs => (.bool true, cs)
    | 'f' :: cs => (afterWord? ['a', 'l', 's', 'e'] cs).map fun cs => (.bool false, cs)
    | cs => (takeNumber? cs).map fun (n, cs) => (.number n, cs)

/-- The items of an array, at least one, up to its closing bracket. -/
def takeItems? : Nat → List Char → Option (List Written × List Char)
  | 0, _ => none
  | fuel + 1, cs => do
    let (item, cs) ← takeValue? fuel cs
    match skipSpace cs with
    | ',' :: cs =>
      let (items, cs) ← takeItems? fuel cs
      return (item :: items, cs)
    | ']' :: cs => return ([item], cs)
    | _ => none

/-- The fields of an object, at least one, up to its closing brace. -/
def takeFields? : Nat → List Char → Option (List (List Piece × Written) × List Char)
  | 0, _ => none
  | fuel + 1, cs =>
    match skipSpace cs with
    | '"' :: cs => do
      let (name, cs) ← takeString? cs
      let cs ← afterWord? [':'] (skipSpace cs)
      let (value, cs) ← takeValue? fuel cs
      match skipSpace cs with
      | ',' :: cs =>
        let (fields, cs) ← takeFields? fuel cs
        return ((name, value) :: fields, cs)
      | '\x7d' :: cs => return ([(name, value)], cs)
      | _ => none
    | _ => none

end

/-- The structure of a text that is one JSON value with spaces around it. -/
def Written.read? (s : String) : Option Written := do
  let (value, rest) ← takeValue? (s.toList.length + 1) s.toList
  if (skipSpace rest).isEmpty then some value else none

end GameLog.Json
