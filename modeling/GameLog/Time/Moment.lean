import GameLog.Text.Numeral

/-!
# Dates and times of day

A moment is a date of the proleptic Gregorian calendar and a time of day to the second, in universal
time. Moments are counted in seconds, so that offsets can be taken off across the ends of days,
months and years.

Main statements:
* `daysBeforeYear_succ`: each year is as long as its months together;
* `length_text`: moments of the years 0 to 9999 have texts of one length.
-/

namespace GameLog

/-- A date and a time of day. -/
structure Moment where
  year : Int
  month : Nat
  day : Nat
  hour : Nat
  minute : Nat
  second : Nat
deriving DecidableEq, Repr

namespace Moment

open GameLog.Text

/-! ## The calendar -/

/-- Whether a year has a 29th of February. -/
def leap (year : Int) : Bool := year % 4 == 0 && (year % 100 != 0 || year % 400 == 0)

/-- The lengths of the months of a year. -/
def monthLengths (year : Int) : List Nat :=
  [31, if leap year then 29 else 28, 31, 30, 31, 30, 31, 31, 30, 31, 30, 31]

/-- The length of a month counted from 1, zero if there is none. -/
def monthLength (year : Int) (month : Nat) : Nat :=
  if month = 0 then 0 else ((monthLengths year)[month - 1]?).getD 0

/-- Whether there is such a date. -/
def validDate (year : Int) (month day : Nat) : Bool := 1 ≤ day && day ≤ monthLength year month

/-- Whether there is such a time of day. -/
def validTime (hour minute second : Nat) : Bool := hour < 24 && minute < 60 && second < 60

/-- Whether a moment is a date and a time of day that there are. -/
def valid (m : Moment) : Bool :=
  validDate m.year m.month m.day && validTime m.hour m.minute m.second

theorem monthLength_le (year : Int) (month : Nat) : monthLength year month ≤ 31 := by
  unfold monthLength
  split
  · omega
  · rcases h : (monthLengths year)[month - 1]? with _ | length
    · simp
    · have := List.mem_of_getElem? h
      simp only [monthLengths, List.mem_cons, List.not_mem_nil, or_false] at this
      split at this <;> simp <;> omega

/-- There are months 1 to 12. -/
theorem month_le_of_validDate {year : Int} {month day : Nat}
    (h : validDate year month day = true) : 1 ≤ month ∧ month ≤ 12 := by
  simp only [validDate, Bool.and_eq_true, decide_eq_true_eq] at h
  unfold monthLength at h
  split at h
  · omega
  · rcases hm : (monthLengths year)[month - 1]? with _ | length
    · simp [hm] at h
      omega
    · have := (List.getElem?_eq_some_iff.1 hm).1
      simp [monthLengths] at this
      omega

/-! ## Counting days -/

/-- The days from the start of the year 1 to the start of a year. -/
def daysBeforeYear (year : Int) : Int :=
  let y := year - 1
  365 * y + y / 4 - y / 100 + y / 400

/-- The days before a month of a year, counted from 1. -/
def daysBeforeMonth (year : Int) (month : Nat) : Nat :=
  ((monthLengths year).take (month - 1)).foldr (· + ·) 0

/-- The count of days before a year grows by the lengths of its twelve months. -/
theorem daysBeforeYear_succ (year : Int) :
    daysBeforeYear (year + 1) = daysBeforeYear year + daysBeforeMonth year 13 := by
  by_cases h : leap year = true
  · simp only [daysBeforeYear, daysBeforeMonth, monthLengths, h, if_true]
    simp only [leap, Bool.and_eq_true, Bool.or_eq_true, beq_iff_eq, bne_iff_ne] at h
    simp
    omega
  · simp only [daysBeforeYear, daysBeforeMonth, monthLengths, h, Bool.false_eq_true, if_false]
    simp only [leap, Bool.and_eq_true, Bool.or_eq_true, beq_iff_eq, bne_iff_ne] at h
    simp
    omega

/-- The days from the start of the year 1 to a date. -/
def daysTo (year : Int) (month day : Nat) : Int :=
  daysBeforeYear year + daysBeforeMonth year month + (day - 1 : Nat)

/-- The days from the start of the year 1 to the start of 1970. -/
def epochDays : Int := daysBeforeYear 1970

/-- The year that a day lies in. -/
def yearOf (days : Int) : Int :=
  let guess := days * 400 / 146097 + 1
  if days < daysBeforeYear guess then guess - 1
  else if daysBeforeYear (guess + 1) ≤ days then guess + 1
  else guess

/-- The month and the day of a day counted from zero, given the lengths of the months from one on.
-/
def monthAndDay (month : Nat) : List Nat → Nat → Nat × Nat
  | [], rest => (month, rest + 1)
  | length :: lengths, rest =>
    if rest < length then (month, rest + 1) else monthAndDay (month + 1) lengths (rest - length)

/-! ## Counting seconds -/

/-- The seconds from the start of 1970 to a moment. -/
def seconds (m : Moment) : Int :=
  (daysTo m.year m.month m.day - epochDays) * 86400 +
    (m.hour * 3600 + m.minute * 60 + m.second : Nat)

/-- The moment so many seconds after the start of 1970. -/
def ofSeconds (seconds : Int) : Moment :=
  let days := seconds / 86400 + epochDays
  let rest := (seconds % 86400).toNat
  let year := yearOf days
  let (month, day) := monthAndDay 1 (monthLengths year) (days - daysBeforeYear year).toNat
  ⟨year, month, day, rest / 3600, rest % 3600 / 60, rest % 60⟩

/-! ## The stored form -/

/-- The text of a year: four digits, behind a minus sign if it is negative. -/
def yearText (year : Int) : String := (if year < 0 then "-" else "") ++ paddedText 4 year.natAbs

/-- The stored form `YYYY-MM-DD HH:MM:SS`. -/
def text (m : Moment) : String :=
  yearText m.year ++ "-" ++ paddedText 2 m.month ++ "-" ++ paddedText 2 m.day ++ " " ++
    paddedText 2 m.hour ++ ":" ++ paddedText 2 m.minute ++ ":" ++ paddedText 2 m.second

/-- Moments of the years 0 to 9999 have texts of one length. -/
theorem length_text {m : Moment} (h : m.valid = true) (hy : 0 ≤ m.year) (hy' : m.year ≤ 9999) :
    m.text.length = 19 := by
  simp only [valid, Bool.and_eq_true] at h
  have hm := month_le_of_validDate h.1
  have hd := monthLength_le m.year m.month
  simp only [validDate, validTime, Bool.and_eq_true, decide_eq_true_eq] at h
  have pair : ∀ n : Nat, n < 100 → (paddedText 2 n).length = 2 := fun n hn =>
    length_paddedText (by decide) hn
  have year : (yearText m.year).length = 4 := by
    rw [yearText, if_neg (by omega), String.empty_append]
    exact length_paddedText (by decide) (show m.year.natAbs < 10000 by omega)
  simp only [text, String.length_append, year, pair m.month (by omega), pair m.day (by omega),
    pair m.hour (by omega), pair m.minute (by omega), pair m.second (by omega)]
  rfl

end Moment

end GameLog
