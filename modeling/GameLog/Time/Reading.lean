import GameLog.Fault
import GameLog.Text.Basic
import GameLog.Time.Moment

/-!
# Reading time stamps

A time stamp is read in four forms, in this order: the stored form, RFC 3339 with an offset that is
taken off, the stamp of a log file, and seconds from the start of 1970. The stamp of a log file has
fourteen digits, counts months from zero and may end in letters that say which clock was used. Seconds
that lie in no year of four digits are refused. An offset that leads out of these years aborts the run.
Main statement: `takeDigits?_paddedText`, so many digits are taken off as were written.
-/

namespace GameLog.Time

open GameLog.Text

/-- Why a text is not a time stamp. -/
inductive TimeError
  | empty
  | unsupported (text : String)
  | secondsOutOfRange (text : String)
  | monthOutOfRange (stamp : String)
  | invalidDate (stamp : String)
  | invalidTime (stamp : String)
deriving DecidableEq, Repr

/-- The text of an error. -/
def TimeError.message : TimeError → String
  | .empty => "timestamp input is empty"
  | .unsupported text => "unsupported timestamp format: " ++ text
  | .secondsOutOfRange text => "epoch seconds out of range: " ++ text
  | .monthOutOfRange stamp => "month out of range: " ++ stamp
  | .invalidDate stamp => "invalid logfile date: " ++ stamp
  | .invalidTime stamp => "invalid logfile time: " ++ stamp

/-! ## Parts of a time stamp -/

/-- The value of exactly so many digits in front of a text, and the text behind them. -/
def takeDigits? (count : Nat) (cs : List Char) : Option (Nat × List Char) :=
  if (cs.take count).length = count then
    (readDigits? (cs.take count)).map fun n => (n, cs.drop count)
  else none

/-- So many digits are taken off as were written. -/
theorem takeDigits?_paddedText {width n : Nat} (hw : 0 < width) (h : n < Nat.pow 10 width)
    (rest : List Char) : takeDigits? width ((paddedText width n).toList ++ rest) = some (n, rest) := by
  have hlength : (paddedText width n).toList.length = width := length_paddedText hw h
  have hne : (paddedText width n).toList.isEmpty = false := by
    rw [List.isEmpty_eq_false_iff, ne_eq, ← List.length_eq_zero_iff]
    omega
  rw [takeDigits?, List.take_left' hlength, List.drop_left' hlength, if_pos hlength, readDigits?,
    all_isDigit_paddedText, hne, digitsValue_paddedText]
  rfl

/-- The text behind a given character. -/
def after? (c : Char) : List Char → Option (List Char)
  | [] => none
  | d :: cs => if d = c then some cs else none

/-- A date written `MM-DD` behind its year. -/
def takeMonthDay? (cs : List Char) : Option (Nat × Nat × List Char) := do
  let (month, cs) ← takeDigits? 2 (← after? '-' cs)
  let (day, cs) ← takeDigits? 2 (← after? '-' cs)
  return (month, day, cs)

/-- A time of day written `HH:MM:SS`. -/
def takeClock? (cs : List Char) : Option (Nat × Nat × Nat × List Char) := do
  let (hour, cs) ← takeDigits? 2 cs
  let (minute, cs) ← takeDigits? 2 (← after? ':' cs)
  let (second, cs) ← takeDigits? 2 (← after? ':' cs)
  return (hour, minute, second, cs)

/-- A year of four digits behind an optional sign. -/
def takeYear? (cs : List Char) : Option (Int × List Char) :=
  match cs with
  | '-' :: cs => (takeDigits? 4 cs).map fun (y, cs) => (-(y : Int), cs)
  | '+' :: cs => (takeDigits? 4 cs).map fun (y, cs) => ((y : Int), cs)
  | cs => (takeDigits? 4 cs).map fun (y, cs) => ((y : Int), cs)

/-! ## The stored form -/

/-- The moment that a text in the stored form means. -/
def stored? (cs : List Char) : Option Moment := do
  let (year, cs) ← takeYear? cs
  let (month, day, cs) ← takeMonthDay? cs
  let (hour, minute, second, cs) ← takeClock? (← after? ' ' cs)
  if cs.isEmpty && Moment.validDate year month day && Moment.validTime hour minute second then
    some ⟨year, month, day, hour, minute, second⟩
  else none

/-! ## RFC 3339 -/

/-- The text behind an optional fraction of a second. -/
def afterFraction? : List Char → Option (List Char)
  | '.' :: cs =>
    if (cs.takeWhile Char.isDigit).isEmpty then none else some (cs.dropWhile Char.isDigit)
  | cs => some cs

/-- The offset from universal time, in seconds, that makes up all of a text. -/
def offset? (cs : List Char) : Option Int :=
  match cs with
  | ['Z'] => some 0
  | ['z'] => some 0
  | sign :: cs => do
    let (hours, cs) ← takeDigits? 2 cs
    let (minutes, cs) ← takeDigits? 2 (← after? ':' cs)
    if !cs.isEmpty || 23 < hours || 59 < minutes then none
    else if sign = '+' then some (hours * 3600 + minutes * 60 : Nat)
    else if sign = '-' then some (-(hours * 3600 + minutes * 60 : Nat))
    else none
  | [] => none

/-- Whether a moment is the last second of a month. -/
def endsMonth (m : Moment) : Bool :=
  m.day == Moment.monthLength m.year m.month && m.hour == 23 && m.minute == 59 && m.second == 59

/-- What a clock shows that is ahead of universal time by so many seconds. -/
structure ClockReading where
  moment : Moment
  ahead : Int
deriving DecidableEq, Repr

/-- The seconds from the start of 1970 to the instant at which a clock shows what it shows. -/
def ClockReading.instant (r : ClockReading) : Int := r.moment.seconds - r.ahead

/-- The clock reading that a text of RFC 3339 means. Any ASCII character may stand between date and
time. The second 60 is read as 59 where a month ends in universal time. -/
def internet? (cs : List Char) : Option ClockReading := do
  let (year, cs) ← takeDigits? 4 cs
  let (month, day, cs) ← takeMonthDay? cs
  let between ← cs.head?
  guard (between.toNat < 0x80)
  let (hour, minute, second, cs) ← takeClock? cs.tail
  let offset ← offset? (← afterFraction? cs)
  let heldBack := if second = 60 then 59 else second
  guard (Moment.validDate year month day && Moment.validTime hour minute heldBack)
  let reading : ClockReading := ⟨⟨year, month, day, hour, minute, heldBack⟩, offset⟩
  if second = 60 && !endsMonth (.ofSeconds reading.instant) then none else some reading

/-! ## Log file stamps and seconds -/

/-- Whether a text is the body of a log file stamp. -/
def isStamp (cs : List Char) : Bool := cs.length == 14 && cs.all Char.isDigit

/-- The moment that the fourteen digits of a log file stamp mean. -/
def stamp (cs : List Char) : Except TimeError Moment :=
  let field (first count : Nat) := digitsValue ((cs.drop first).take count)
  let text := String.ofList cs
  let year : Int := field 0 4
  let month := field 4 2 + 1
  if 12 < month then .error (.monthOutOfRange text)
  else if !Moment.validDate year month (field 6 2) then .error (.invalidDate text)
  else if !Moment.validTime (field 8 2) (field 10 2) (field 12 2) then .error (.invalidTime text)
  else .ok ⟨year, month, field 6 2, field 8 2, field 10 2, field 12 2⟩

/-- Whether a count of seconds falls into a year of four digits. -/
def secondsInRange (n : Int) : Bool :=
  (⟨-9999, 1, 1, 0, 0, 0⟩ : Moment).seconds ≤ n && n ≤ (⟨9999, 12, 31, 23, 59, 59⟩ : Moment).seconds

/-- The letters that may follow a log file stamp. -/
def isClockLetter (c : Char) : Bool := c == 'S' || c == 'D'

/-! ## All forms -/

/-- The moment that a time stamp means. -/
def read (raw : String) : Except (Fault TimeError) Moment :=
  let cs := trimmed raw.toList
  let text := String.ofList cs
  let body := (cs.reverse.dropWhile isClockLetter).reverse
  if cs.isEmpty then .error (.refused .empty)
  else match stored? cs with
    | some m => .ok m
    | none => match internet? cs with
      | some r =>
        -- taking the offset off is not checked in advance: it aborts if there is no such moment
        if secondsInRange r.instant then .ok (.ofSeconds r.instant) else .error .aborted
      | none =>
        if isStamp body then (stamp body).mapError .refused
        else match readInt? text with
          | some n =>
            if secondsInRange n then .ok (.ofSeconds n)
            else .error (.refused (.secondsOutOfRange text))
          | none => .error (.refused (.unsupported text))

/-- The stored form of a time stamp. -/
def normal (raw : String) : Except (Fault TimeError) String := (read raw).map Moment.text

/-- The stored form of a time stamp, and any other text as it is. A text on which reading aborts counts as
such a text too; no load keeps one for a date. -/
def pretty (raw : String) : String :=
  match normal raw with
  | .ok text => text
  | .error _ => raw

end GameLog.Time

namespace GameLog

/-- What is said of a time stamp that is not read. -/
def Fault.message : Fault Time.TimeError → String
  | refused cause => cause.message
  | aborted => ""

end GameLog
