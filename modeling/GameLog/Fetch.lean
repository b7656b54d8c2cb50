import GameLog.CellText
import GameLog.Driver
import GameLog.Query.Basic

/-!
# Fetching one row

A query that reports no groups asks for one row, counted from the last in its order: index 0 is the
last row. The rows are counted first; then the row is read from the nearer end, by turning the order
around if it lies in the second half.

Main statements:
* `planScan_eq_ok_iff`: an index is in range exactly if it is not negative and below the count;
* `planFront_offset`: at most half of the rows are passed over.
-/

namespace GameLog

open GameLog.Text

/-! ## Where to read -/

/-- Where a row is read: its place from the front, whether the order is turned around, how many rows
are passed over, and its number counted from the last row. -/
structure ScanPlan where
  front : Int
  reversed : Bool
  offset : Int
  rank : Int
deriving DecidableEq, Repr

/-- Where the row at a place from the front is read. -/
def planFront (count front : Int) : ScanPlan :=
  let reversed : Bool := Int.tdiv count 2 < front
  ⟨front, reversed, if reversed then count - 1 - front else front, count - front⟩

/-- Where the row of an index is read. -/
def planScan (count index : Int) : Except QueryError ScanPlan :=
  let front := count - 1 - index
  if index < 0 || front < 0 || count ≤ front then .error (.indexOutOfRange index)
  else .ok (planFront count front)

/-- An index is in range exactly if it is not negative and below the count. -/
theorem planScan_eq_ok_iff {count index : Int} {plan : ScanPlan} :
    planScan count index = .ok plan ↔
      0 ≤ index ∧ index < count ∧ plan = planFront count (count - 1 - index) := by
  unfold planScan
  simp only
  split
  · rename_i h
    simp only [Bool.or_eq_true, decide_eq_true_eq] at h
    simp only [reduceCtorEq, false_iff, not_and]
    omega
  · rename_i h
    simp only [Bool.or_eq_true, decide_eq_true_eq, not_or] at h
    simp only [Except.ok.injEq]
    constructor
    · rintro rfl; exact ⟨by omega, by omega, rfl⟩
    · rintro ⟨-, -, rfl⟩; rfl

/-- At most half of the rows are passed over. -/
theorem planFront_offset {count front : Int} (h0 : 0 ≤ front) (h : front < count) :
    0 ≤ (planFront count front).offset ∧ 2 * (planFront count front).offset ≤ count := by
  have hdiv : Int.tdiv count 2 = count / 2 := Int.tdiv_eq_ediv_of_nonneg (by omega)
  unfold planFront
  simp only [hdiv, decide_eq_true_eq]
  split <;> omega

/-! ## The row found -/

/-- A row that was found, with its number from the last row and the count of all rows. -/
structure FoundRow where
  rank : Int
  count : Int
  columns : List RowColumn
  row : Row
deriving DecidableEq, Repr

/-- The fields of a row that have a text, each with its name. -/
def FoundRow.fields (r : FoundRow) : List String :=
  (r.columns.zip r.row).filterMap fun (column, cell) =>
    let shown := cell.shownAs column.name column.kind
    if shown = "" then none else some (column.name ++ "=" ++ shown)

/-- The reply that shows a row. -/
def FoundRow.text (r : FoundRow) : String :=
  intText r.rank ++ "/" ++ intText r.count ++ ". " ++ joinWith ", " r.fields

/-! ## Fetching -/

/-- The place of a random row among so many. -/
abbrev Pick := Int → Int

/-- Where a query is read if so many rows match. -/
def Query.plan (q : Query) (pick : Pick) (count : Int) : Except QueryError ScanPlan :=
  if q.random then .ok (planFront count (pick count)) else planScan count q.index

/-- The statement that reads rows by a plan. -/
def Query.selectPlanned (q : Query) (plan : ScanPlan) : Statement :=
  if plan.reversed then q.reverse.selectRows else q.selectRows

/-- The row that a query asks for. -/
def fetchRow (d : Driver) (pick : Pick) (q : Query) : Asking (Option FoundRow) := do
  let count ← d.askCount q.selectCount
  if count ≤ 0 then return none
  let plan ← (q.plan pick count : Except QueryError ScanPlan)
  let rows ← d.askRows (q.selectPlanned plan) (some 1) (some plan.offset.toNat)
  return rows.head?.map fun row => ⟨plan.rank, count, q.rowColumns, row⟩

/-- A query after calls made for it: once rows were read, no more row is picked at random. -/
def Query.afterCalls (q : Query) (calls : List Call) : Query :=
  if calls.any Call.isRows then q.setRandom false else q

end GameLog
