import GameLog.Binary64.Basic
import GameLog.Text.Numeral

/-!
# Numbers with two decimal places

A number is written with exactly two places, the exact value rounded to the nearest hundredth and a
half to the even one; it is never written with an exponent. Reports drop zeros at the end of the
places, and the point if no place is left.
-/

namespace GameLog.Decimal

open GameLog.Text

/-- How values that are not finite are written. -/
structure Names where
  infinity : String
  notANumber : String

/-- The names that reports give to values that are not finite. -/
def reportNames : Names := ⟨"inf", "NaN"⟩

/-- The exact value of a finite number in hundredths, rounded to a whole number. -/
def hundredths (x : Binary64) : Nat :=
  let (num, den) := Binary64.overPower (x.significand * 100) 1 (-x.exponent)
  Binary64.roundEven num den

/-- The integer digits and the two places of a finite number, without its sign. -/
def placesText (x : Binary64) : String :=
  natText (hundredths x / 100) ++ "." ++ paddedText 2 (hundredths x % 100)

/-- A number with two places. -/
def twoPlaces (x : Binary64) : String :=
  if x.isNaN then reportNames.notANumber
  else (if x.negative then "-" else "") ++
    if x.isInfinite then reportNames.infinity else placesText x

/-- A text without zeros at its end and then without a point at its end. -/
def dropZeros (s : String) : String :=
  let kept := s.toList.reverse.dropWhile (· == '0')
  String.ofList ((kept.dropWhile (· == '.')).reverse)

/-- A number with two places at most. -/
def shortPlaces (x : Binary64) : String :=
  if x.isNaN || x.isInfinite then twoPlaces x else dropZeros (twoPlaces x)

end GameLog.Decimal
