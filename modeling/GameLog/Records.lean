import GameLog.Cell
import GameLog.Catalog.Basic
import GameLog.Json.Printer
import GameLog.Json.Value
import GameLog.Query.Binding
import GameLog.Time.Reading

/-!
# Records of events

Events come as text with one JSON object on each line that is not blank. A field of a record is
looked up by its name and then by its column, and kept as the kind of the field asks; what is not
given is kept as nothing. What no field asks for is passed over. A time stamp on which reading aborts
aborts the reading of its record.

Main statement: `length_readLines`, there are as many records as lines that are not blank.
-/

namespace GameLog

open GameLog.Text

/-- A record: the fields of a JSON object. -/
abbrev Record := List (String × Json)

/-! ## Lines -/

/-- Why a text does not hold records. Lines are counted from one. -/
inductive LineError
  | notJson (line : Nat)
  | notObject (line : Nat)
deriving DecidableEq, Repr

/-- The text of an error. -/
def LineError.message : LineError → String
  | .notJson line => "invalid json on line " ++ natText line
  | .notObject line => "line " ++ natText line ++ " is not a json object"

/-- The record on a line of a number. -/
def readLine (number : Nat) (line : List Char) : Except LineError Record :=
  match Json.read? (String.ofList line) with
  | none => .error (.notJson number)
  | some (.object fields) => .ok fields
  | some _ => .error (.notObject number)

/-- The records on lines counted from a number. -/
def readLines (number : Nat) : List (List Char) → Except LineError (List Record)
  | [] => .ok []
  | line :: lines =>
    if line.all isBlank then readLines (number + 1) lines
    else do
      let record ← readLine number line
      return record :: (← readLines (number + 1) lines)

/-- The lines of a text. -/
def textLines (text : String) : List (List Char) := text.toList.splitOn '\n'

/-- The records of a text. -/
def readRecords (text : String) : Except LineError (List Record) := readLines 1 (textLines text)

/-- There are as many records as lines that are not blank. -/
theorem length_readLines {number : Nat} {lines : List (List Char)} {records : List Record}
    (h : readLines number lines = .ok records) :
    records.length = (lines.filter fun line => !line.all isBlank).length := by
  induction lines generalizing number records with
  | nil => cases h; rfl
  | cons line lines ih =>
    by_cases hb : line.all isBlank = true
    · simp only [readLines, hb, if_true] at h
      simpa [hb] using ih h
    · simp only [readLines, hb] at h
      simp only [Bool.not_eq_true] at hb
      rcases hl : readLine number line with e | record
      · rw [hl] at h; cases h
      · rcases hr : readLines (number + 1) lines with e | rest
        · rw [hl, hr] at h; cases h
        · rw [hl, hr] at h
          cases h
          simp [hb, ih hr]

/-! ## Values -/

/-- Why a field of a record is not kept. -/
inductive RecordError
  | unexpected (field : String) (kind : Kind) (value : Json)
  | badTime (field : String) (cause : Time.TimeError)
deriving Repr

/-- The messages of an error, outermost first. -/
def RecordError.messages : RecordError → List String
  | .unexpected field kind value =>
    ["field `" ++ field ++ "` expects " ++ kind.name ++ ": " ++ value.compact]
  | .badTime field cause => ["field `" ++ field ++ "` has an invalid timestamp", cause.message]

/-- The truth value of a word of a record. No word at all means falsehood. -/
def recordFlag? (s : String) : Option Bool := if trim s = "" then some false else readFlag? s

/-- The number that a value means. -/
def integerOf? : Json → Option Int
  | .number n => n.integer?
  | .string s => readInt? (trim s)
  | .bool b => some (if b then 1 else 0)
  | _ => none

/-- The truth value that a value means. -/
def flagOf? : Json → Option Bool
  | .bool b => some b
  | .number n => n.integer?.map (· != 0)
  | .string s => recordFlag? s
  | _ => none

/-- The time stamp that a value is read as. -/
def stampOf? : Json → Option String
  | .string s => some s
  | .number n => some (Json.numberText n)
  | _ => none

/-- The text that a value means. -/
def textOf? : Json → Option String
  | .string s => some s
  | .number n => some (Json.numberText n)
  | .bool b => some (Json.compact (.bool b))
  | _ => none

/-- What is kept of a value that is given for a field. -/
def givenCell (f : FieldSpec) (value : Json) : Except (Fault RecordError) Cell :=
  let unexpected : Fault RecordError := .refused (.unexpected f.name f.kind value)
  match f.kind with
  | .integer => ((integerOf? value).map Cell.integer).elim (.error unexpected) .ok
  | .boolean => ((flagOf? value).map flagCell).elim (.error unexpected) .ok
  | .date =>
    match stampOf? value with
    | none => .error unexpected
    | some raw => ((Time.normal raw).map Cell.text).mapError (Fault.map (.badTime f.name))
  | .text => ((textOf? value).map Cell.text).elim (.error unexpected) .ok

/-- What is kept of a value of a field: nothing, if that is what is given. -/
def cellOf (f : FieldSpec) : Json → Except (Fault RecordError) Cell
  | .null => .ok .null
  | value => givenCell f value

/-- What a record gives for a field. -/
def Record.given (r : Record) (f : FieldSpec) : Json :=
  ((Dictionary.lookup f.name r).or (Dictionary.lookup f.column r)).getD .null

/-- The cells that are kept of a record. -/
def Record.cells (r : Record) (fields : List FieldSpec) : Except (Fault RecordError) (List Cell) :=
  fields.mapM fun f => cellOf f (r.given f)

/-- The fields that records give values for: all but the one that numbers the rows. -/
def Catalog.givenFields (c : Catalog) (context : Context) : List FieldSpec :=
  (c.fields context).filter (·.name != idField)

end GameLog
