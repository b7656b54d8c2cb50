import GameLog.CellText
import GameLog.Driver
import GameLog.Report.Sorting
import GameLog.Text.LowerCase

/-!
# Report rows

A report row has the cells of its group, and one slot for each query in its counts and in each of
its extra columns. Rows of several queries that belong to one group are merged: the first query
seeds the row, and a further one fills the slot at its place.

Main statements:
* `length_counts_pad`, `length_counts_combine`: after a query's place is filled, counts reach it;
* `getElem?_sumCounts`: the sum at a place is the sum of the counts at that place;
* `sumCounts_perm`: sums do not depend on the order of rows.
-/

namespace GameLog

open GameLog.Text

/-- A report row: the cells of its group, its counts, and the values of its extra columns. -/
structure ReportRow where
  cells : List Cell
  counts : List Int
  extras : List (List Cell)
deriving DecidableEq, Repr

namespace ReportRow

/-! ## From rows of the store -/

/-- The count that a cell holds. -/
def cellCount : Cell → Int
  | .integer n => n
  | cell => cell.asNumber.truncate

/-- The report row of a row of the store: its count, the cells of so many group fields, and the
values of the extra columns. -/
def ofRow (groups : Nat) (row : Row) : ReportRow where
  cells := row.tail.take groups
  counts := [(row.head?.map cellCount).getD 0]
  extras := (row.tail.drop groups).map fun cell => [cell]

/-- The first count. -/
def count (r : ReportRow) : Int := r.counts.head?.getD 0

/-- The cell that stands for a row: that of the last group field. -/
def key? (r : ReportRow) : Option Cell := r.cells.getLast?

/-! ## Merging -/

/-- What stands between the texts of group cells. -/
def keySeparator : String := "@@"

/-- The text by which rows of several queries belong to one group, without regard to letter case. -/
def mergeKey (r : ReportRow) : String := lowerCase (joinWith keySeparator (r.cells.map Cell.shown))

/-- A list made so long with a value at its end; a longer one is left as it is. -/
def padTo {α : Type} (size : Nat) (value : α) (l : List α) : List α :=
  l ++ List.replicate (size - l.length) value

/-- A row with at least so many slots; new ones hold zero. -/
def pad (size : Nat) (r : ReportRow) : ReportRow :=
  { r with
    counts := padTo size 0 r.counts
    extras := r.extras.map (padTo size (.integer 0)) }

/-- The value that a row of another query puts into a slot of an extra column. -/
def slotValue (other : ReportRow) (slot : Nat) : Cell :=
  ((other.extras[slot]?).bind List.head?).getD (.integer 0)

/-- A row with that of another query put in at its place. If the place is filled already, as groups
that differ in letter case do, only the count is added. -/
def combine (r other : ReportRow) (place : Nat) : ReportRow :=
  if place < r.counts.length then
    { r with counts := r.counts.modify place (· + other.count) }
  else
    let r := r.pad place
    { r with
      counts := r.counts ++ [other.count]
      extras := r.extras.mapIdx fun slot values => values ++ [slotValue other slot] }

@[simp] theorem length_padTo {α : Type} (size : Nat) (value : α) (l : List α) :
    (padTo size value l).length = max size l.length := by
  simp [padTo]; omega

/-- A padded row has as many counts as asked for, unless it had more. -/
theorem length_counts_pad (size : Nat) (r : ReportRow) :
    (r.pad size).counts.length = max size r.counts.length := by simp [pad]

/-- After a place is filled, the counts reach it. -/
theorem length_counts_combine (r other : ReportRow) (place : Nat) :
    (r.combine other place).counts.length = max (place + 1) r.counts.length := by
  unfold combine
  split
  · simp; omega
  · simp [length_counts_pad]; omega

@[simp] theorem cells_combine (r other : ReportRow) (place : Nat) :
    (r.combine other place).cells = r.cells := by
  unfold combine
  split <;> rfl

/-! ## Sums -/

/-- Counts added slot by slot; the first list keeps its length. -/
def addCounts : List Int → List Int → List Int
  | a :: as, b :: bs => (a + b) :: addCounts as bs
  | as, [] => as
  | [], _ => []

/-- The sums of so many counts over rows. -/
def sumCounts (width : Nat) (rows : List ReportRow) : List Int :=
  rows.foldl (fun sums r => addCounts sums r.counts) (List.replicate width 0)

/-- The count of a row at a place, zero if there is none. -/
def countAt (place : Nat) (r : ReportRow) : Int := (r.counts[place]?).getD 0

/-- The sum of the counts of rows at a place. -/
def countSum (place : Nat) (rows : List ReportRow) : Int :=
  rows.foldr (fun r n => r.countAt place + n) 0

theorem getElem?_addCounts (as bs : List Int) (place : Nat) :
    (addCounts as bs)[place]? = (as[place]?).map (· + (bs[place]?).getD 0) := by
  induction as generalizing bs place with
  | nil => cases bs <;> simp [addCounts]
  | cons a as ih => cases bs <;> cases place <;> simp [addCounts, ih]

/-- The sum at a place is the sum of the counts at that place. -/
theorem getElem?_sumCounts (width : Nat) (rows : List ReportRow) (place : Nat) :
    (sumCounts width rows)[place]? =
      if place < width then some (countSum place rows) else none := by
  suffices h : ∀ sums : List Int,
      (rows.foldl (fun sums r => addCounts sums r.counts) sums)[place]? =
        (sums[place]?).map (· + countSum place rows) by
    rw [sumCounts, h, List.getElem?_replicate]
    split <;> simp
  induction rows with
  | nil => simp [countSum]
  | cons r rows ih =>
    intro sums
    rw [List.foldl_cons, ih, getElem?_addCounts]
    simp [Function.comp_def, countSum, countAt, Int.add_assoc]

/-- Sums do not depend on the order of rows. -/
theorem sumCounts_perm (width : Nat) {rows rows' : List ReportRow} (h : rows.Perm rows') :
    sumCounts width rows = sumCounts width rows' := by
  apply List.ext_getElem?
  intro place
  have sum : countSum place rows = countSum place rows' :=
    h.foldr_eq' (fun x _ y _ z => by omega) 0
  rw [getElem?_sumCounts, getElem?_sumCounts, sum]

/-! ## Sorting -/

/-- The value that a report sorts a cell by. -/
def sortValue : Cell → SortValue
  | .null => .missing
  | .integer n => .number (.ofInt n)
  | .real x => .number x
  | .text s => .text s
  | .blob bytes => .text (bytesText bytes)

/-- The values that rows with a key, counts and extra columns are sorted by. -/
def valuesOf (key : Option Cell) (counts : List Int) (extras : List (List Cell)) : RowValues where
  key := (key.map sortValue).getD .missing
  counts := counts.map fun n => .number (.ofInt n)
  extras := extras.map fun values => values.map sortValue

/-- The values that a row is sorted by. -/
def values (r : ReportRow) : RowValues := valuesOf r.key? r.counts r.extras

end ReportRow

/-- Rows in the order of sort conditions, or with the larger first count in front if there are none.
Rows that the conditions do not tell apart keep their order. -/
def sortRows {α : Type} (sorts : List SortCondition) (values : α → RowValues) (count : α → Int)
    (rows : List α) : List α :=
  rows.mergeSort fun a b =>
    if sorts.isEmpty then count b ≤ count a else compareRows sorts (values a) (values b) != .gt

theorem perm_sortRows {α : Type} (sorts : List SortCondition) (values : α → RowValues)
    (count : α → Int) (rows : List α) : (sortRows sorts values count rows).Perm rows :=
  List.mergeSort_perm _ _

end GameLog
