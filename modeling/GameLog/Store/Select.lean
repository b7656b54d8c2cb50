import GameLog.Driver
import GameLog.Statement.Truth
import GameLog.Store.Basic
import GameLog.Store.Compare

/-!
# Answering statements

How a store answers a statement: each row of the first table stands beside each row of the second;
the rows under the condition are kept, one by one or brought together in groups, and put in the
order of the statement. A statement that names what is not there fails, even if there are no rows.

Main statements:
* `mem_keptRows`: the rows kept are those of the tables under the condition;
* `sortRowsBy_perm`: ordering rows loses none and repeats none.
-/

namespace GameLog

open GameLog.Text

/-! ## Rows side by side -/

/-- The row of one table under the short name of the table. -/
structure RowPart where
  short : String
  columns : List ColumnSpec
  cells : List Cell
deriving DecidableEq, Repr

/-- A row of each table of a statement. -/
abbrev JoinedRow := List RowPart

/-- The rows of a table under its short name. -/
def partsOf (short : String) (t : Table) : List RowPart :=
  t.shownRows.map fun cells => ⟨short, t.columns, cells⟩

/-- Each row of the first list of parts beside each row of the next ones. -/
def joinParts : List (List RowPart) → List JoinedRow
  | [] => [[]]
  | parts :: rest => parts.flatMap fun part => (joinParts rest).map (part :: ·)

/-- The cell of a column by the text of its name, and how the column keeps values. -/
def RowPart.find? (p : RowPart) (text : String) : Option (Storage × Cell) :=
  (nameOfText? text).bind (Table.cellIn? p.columns p.cells)

/-- The cell of a column of a statement, and how the column keeps values. -/
def JoinedRow.find? (row : JoinedRow) (c : Column) : Option (Storage × Cell) :=
  row.findSome? fun part =>
    if c.table.all (sameLetters part.short) then part.find? c.name else none

/-- The cell of a column of a statement. -/
def JoinedRow.cell (row : JoinedRow) (c : Column) : Cell := ((row.find? c).map (·.2)).getD .null

/-! ## Conditions -/

/-- The two columns whose equality a text states. -/
def readEquality? (text : String) : Option (Column × Column) :=
  match words text with
  | [a, "=", b] => some (.ofText a, .ofText b)
  | _ => none

/-- Which comparisons and which equalities of columns are true of a row. -/
def JoinedRow.assignment (row : JoinedRow) : Assignment where
  comparison c := (row.find? c.column).any fun (storage, cell) =>
    c.comparator.compares cell (if c.comparator.isPattern then c.value else storage.keep c.value)
  fixed text := (readEquality? text).any fun (a, b) =>
    Comparator.eq.compares (row.cell a) (row.cell b)

mutual

/-- The fixed texts of a condition from left to right. -/
def Condition.fixedTexts : Condition → List String
  | .joined _ parts => Condition.fixedTextsIn parts
  | .compare _ => []
  | .fixed text => [text]

/-- The fixed texts of a list of conditions from left to right. -/
def Condition.fixedTextsIn : List Condition → List String
  | [] => []
  | part :: parts => part.fixedTexts ++ Condition.fixedTextsIn parts

end

/-! ## Functions of groups -/

/-- The functions of groups that a store knows. -/
def knownFunctions : List String := ["avg", "count", "max", "min", "sum", "total"]

/-- The whole number that a cell counts as in a sum. -/
def Cell.whole : Cell → Int
  | .integer n => n
  | cell => cell.asNumber.truncate

/-- The first of the cells that come before all others in an order. -/
def foremost (before : Cell → Cell → Bool) : List Cell → Cell
  | [] => .null
  | cell :: cells => cells.foldl (fun best c => if before c best then c else best) cell

/-- The value of a function of the cells of a group, with nothing left out of them. -/
def applyFunction (function : String) (cells : List Cell) : Cell :=
  let total := cells.foldl (fun n cell => n + cell.whole) 0
  if function = "count" then .integer cells.length
  else if function = "max" then foremost (fun a b => a.order b == .gt) cells
  else if function = "min" then foremost (fun a b => a.order b == .lt) cells
  else if function = "total" then .real (.ofInt total)
  else if cells.isEmpty then .null
  else if function = "avg" then .real ((Binary64.ofInt total).div (.ofInt cells.length))
  else .integer total

/-- Cells of which no two are the same. -/
def distinctCells (cells : List Cell) : List Cell :=
  cells.foldr (fun c kept => if kept.any (Cell.sameAs c) then kept else c :: kept) []

/-- The value of an expression for a group of rows. -/
def Expression.valueOf (rows : List JoinedRow) : Expression → Cell
  | .column c => (rows.head?.map fun row => row.cell c).getD .null
  | .countRows => .integer rows.length
  | .countDistinct c =>
    .integer (distinctCells ((rows.map (JoinedRow.cell · c)).filter (· != .null))).length
  | .apply function c =>
    applyFunction function ((rows.map (JoinedRow.cell · c)).filter (· != .null))

/-- Whether an expression is computed from a group of rows. -/
def Expression.isAggregate : Expression → Bool
  | .column _ => false
  | _ => true

/-! ## Order -/

/-- Whether a first list of cells may stand before a second one. -/
def mayPrecede : List Direction → List Cell → List Cell → Bool
  | d :: ds, a :: as, b :: bs =>
    match (match d with | .ascending => a.order b | .descending => b.order a) with
    | .lt => true
    | .gt => false
    | .eq => mayPrecede ds as bs
  | _, _, _ => true

/-- Items in the order of their keys; those with the same keys stay as they are. -/
def sortRowsBy {α : Type} (directions : List Direction) (keys : α → List Cell) (items : List α) :
    List α :=
  items.mergeSort fun a b => mayPrecede directions (keys a) (keys b)

/-- Ordering rows loses none and repeats none. -/
theorem sortRowsBy_perm {α : Type} (directions : List Direction) (keys : α → List Cell)
    (items : List α) : (sortRowsBy directions keys items).Perm items :=
  List.mergeSort_perm _ _

/-! ## Statements -/

/-- Why a store does not answer. -/
inductive SelectError
  | noTable (name : String)
  | noColumn (text : String)
  | noFunction (name : String)
  | badText (text : String)
deriving DecidableEq, Repr

/-- The text of an error. -/
def SelectError.message : SelectError → String
  | .noTable name => "no such table: " ++ name
  | .noColumn text => "no such column: " ++ text
  | .noFunction name => "no such function: " ++ name
  | .badText text => "syntax error in " ++ text

namespace Statement

/-- The functions that a statement applies. -/
def functions (s : Statement) : List String :=
  s.selected.filterMap fun item => match item.expression with
    | .apply function _ => some function
    | _ => none

/-- The columns that a statement names. -/
def columns (s : Statement) : List Column :=
  s.selected.filterMap (·.expression.column?) ++ s.condition.comparisons.map (·.column) ++
    (s.condition.fixedTexts.filterMap readEquality?).flatMap (fun (a, b) => [a, b]) ++ s.groupBy ++
    s.orderBy.filterMap fun term => match term.key with
      | .column c => some c
      | .named _ => none

/-- Whether a column is one of these tables. -/
def knows (tables : List (String × Table)) (c : Column) : Bool :=
  tables.any fun (short, t) =>
    c.table.all (sameLetters short) && (nameOfText? c.name).any t.hasColumn

/-- The tables of a statement under their short names. -/
def findTables (s : Statement) (store : Store) : Except SelectError (List (String × Table)) :=
  s.tables.mapM fun ref => match store.table? ref.table with
    | some t => .ok (ref.short, t)
    | none => .error (.noTable ref.table)

/-- Whether a statement names only what is there. -/
def check (s : Statement) (tables : List (String × Table)) : Except SelectError Unit := do
  if let some c := s.columns.find? (!knows tables ·) then throw (.noColumn c.text)
  if let some f := s.functions.find? (!knownFunctions.contains ·) then throw (.noFunction f)
  if let some text := s.condition.fixedTexts.find? (readEquality? · |>.isNone) then
    throw (.badText text)

/-- The rows of tables under the condition of a statement. -/
def keptRows (s : Statement) (tables : List (String × Table)) : List JoinedRow :=
  (joinParts (tables.map fun (short, t) => partsOf short t)).filter fun row =>
    s.condition.holds row.assignment

/-- The rows kept are those of the tables under the condition. -/
theorem mem_keptRows {s : Statement} {tables : List (String × Table)} {row : JoinedRow} :
    row ∈ s.keptRows tables ↔
      row ∈ joinParts (tables.map fun (short, t) => partsOf short t) ∧
        s.condition.holds row.assignment = true := by
  simp [keptRows]

/-- Whether a statement brings rows together. -/
def isGrouped (s : Statement) : Bool :=
  !s.groupBy.isEmpty || s.selected.any (·.expression.isAggregate)

/-- Rows in groups: all rows in one if there is nothing to group by, else those that agree, in the
order of what they agree in; or each row alone. -/
def groups (s : Statement) (rows : List JoinedRow) : List (List JoinedRow) :=
  let key (row : JoinedRow) := s.groupBy.map row.cell
  if !s.isGrouped then rows.map fun row => [row]
  else if s.groupBy.isEmpty then [rows]
  else (sortRowsBy (s.groupBy.map fun _ => .ascending) key rows).splitBy fun a b =>
    ((key a).zip (key b)).all fun (x, y) => x.sameAs y

/-- The answer for a group of rows. -/
def answerOf (s : Statement) (rows : List JoinedRow) : Row :=
  s.selected.map fun item => item.expression.valueOf rows

/-- The cells that a group of rows is ordered by. -/
def orderKeys (s : Statement) (rows : List JoinedRow) : List Cell :=
  s.orderBy.map fun term => match term.key with
    | .column c => Expression.valueOf rows (.column c)
    | .named name =>
      ((s.selected.find? (·.asName == some name)).map (·.expression.valueOf rows)).getD .null

/-- The answer of a store to a statement. -/
def answer (s : Statement) (store : Store) : Except SelectError (List Row) := do
  let tables ← s.findTables store
  s.check tables
  let groups := sortRowsBy (s.orderBy.map (·.direction)) s.orderKeys (s.groups (s.keptRows tables))
  return groups.map s.answerOf

end Statement

/-- The rows of an answer after so many, so many at most. -/
def cutRows (limit offset : Option Nat) (rows : List Row) : List Row :=
  let rest := rows.drop (offset.getD 0)
  (limit.map rest.take).getD rest

/-- The first cell of an answer as a number. -/
def firstInteger : List Row → Int
  | (.integer n :: _) :: _ => n
  | _ => 0

/-- A store as queries use it. -/
def Store.driver (store : Store) : Driver where
  count _ s :=
    ((s.answer store).map firstInteger).mapError fun e =>
      ⟨["failed to count rows: " ++ s.text, e.message]⟩
  rows _ s limit offset :=
    ((s.answer store).map (cutRows limit offset)).mapError fun e =>
      ⟨["failed to prepare query", e.message]⟩

end GameLog
