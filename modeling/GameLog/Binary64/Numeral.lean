import GameLog.Binary64.Basic
import GameLog.Text.Basic
import GameLog.Text.Numeral

/-!
# Reading numbers of the format binary64

A numeral is an optional sign, then either digits with an optional point among or around them and
an optional power of ten, or one of the words for infinity and for not-a-number in any letter case.
Its value is rounded once.
-/

namespace GameLog.Binary64

open GameLog.Text

/-- The words for values that are not finite, and those values. -/
def named? (neg : Bool) (cs : List Char) : Option Binary64 :=
  let word := cs.map Char.toLower
  if word = "inf".toList || word = "infinity".toList then some (infinity neg)
  else if word = "nan".toList then some (notANumber neg)
  else none

/-- The power of ten behind the digits: nothing, or a letter `e` and a signed whole number. -/
def power? : List Char → Option Int
  | [] => some 0
  | c :: cs => if c = 'e' || c = 'E' then readSigned? cs else none

/-- The value of an unsigned decimal numeral. -/
def decimal? (neg : Bool) (cs : List Char) : Option Binary64 := do
  let whole := cs.takeWhile Char.isDigit
  let (places, rest) := match cs.dropWhile Char.isDigit with
    | '.' :: rest => (rest.takeWhile Char.isDigit, rest.dropWhile Char.isDigit)
    | rest => ([], rest)
  let digits ← readDigits? (whole ++ places)
  let power ← power? rest
  return ofDecimal neg digits (power - places.length)

/-- The number that a text stands for. -/
def read? (s : String) : Option Binary64 :=
  let (neg, cs) := match s.toList with
    | '-' :: cs => (true, cs)
    | '+' :: cs => (false, cs)
    | cs => (false, cs)
  (decimal? neg cs).or (named? neg cs)

end GameLog.Binary64
