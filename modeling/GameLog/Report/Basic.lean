import GameLog.Report.Row

/-!
# Reports

A report shows groups with their counts, shares and extra columns. With two group fields the rows of
one value of the first field stand together under that value, and their counts are added up.

Main statements:
* `flatten_bucketRows_perm`: bringing rows together loses none and repeats none;
* `counts_ofRows`: the counts of rows brought together are the sums of theirs.
-/

namespace GameLog

open GameLog.Text

/-! ## Rows brought together -/

/-- The rows of one value of the first group field. The extra columns are those of the first row. -/
structure Bucket where
  key : Option Cell
  counts : List Int
  extras : List (List Cell)
  children : List ReportRow
deriving DecidableEq, Repr

namespace Bucket

/-- The first count. -/
def count (b : Bucket) : Int := b.counts.head?.getD 0

/-- The values that rows brought together are sorted by. -/
def values (b : Bucket) : RowValues := ReportRow.valuesOf b.key b.counts b.extras

end Bucket

/-- The text by which rows come together, without regard to letter case. -/
def bucketKey (r : ReportRow) : String := lowerCase ((r.cells.head?.map Cell.shown).getD "")

/-- A row put to those of its value, or behind all of them if it is the first of its value. -/
def putRow (r : ReportRow) : List (String × List ReportRow) → List (String × List ReportRow)
  | [] => [(bucketKey r, [r])]
  | entry :: rest =>
    if entry.1 = bucketKey r then (entry.1, entry.2 ++ [r]) :: rest else entry :: putRow r rest

/-- Rows in lists of one value each, in the order in which the values are first seen. -/
def bucketRows (rows : List ReportRow) : List (String × List ReportRow) :=
  rows.foldl (fun buckets r => putRow r buckets) []

/-- Rows of one value under that value, in the order of sort conditions. -/
def Bucket.ofRows (sorts : List SortCondition) : List ReportRow → Option Bucket
  | [] => none
  | first :: rest =>
    let children := sortRows sorts ReportRow.values ReportRow.count (first :: rest)
    some {
      key := first.cells.head?
      counts := ReportRow.sumCounts first.counts.length children
      extras := first.extras
      children := children }

theorem Bucket.children_ofRows {sorts : List SortCondition} {rows : List ReportRow} {b : Bucket}
    (h : ofRows sorts rows = some b) : b.children.Perm rows := by
  cases rows with
  | nil => simp [ofRows] at h
  | cons first rest =>
    simp only [ofRows, Option.some.injEq] at h
    subst h
    exact perm_sortRows _ _ _ _

/-- The counts of rows brought together are the sums of theirs, as many as the first row has. -/
theorem Bucket.counts_ofRows {sorts : List SortCondition} {first : ReportRow}
    {rest : List ReportRow} {b : Bucket} (h : ofRows sorts (first :: rest) = some b) :
    b.counts = ReportRow.sumCounts first.counts.length (first :: rest) := by
  simp only [ofRows, Option.some.injEq] at h
  subst h
  exact ReportRow.sumCounts_perm _ (perm_sortRows _ _ _ _)

theorem flatten_putRow_perm (r : ReportRow) (buckets : List (String × List ReportRow)) :
    ((putRow r buckets).map (·.2)).flatten.Perm (r :: (buckets.map (·.2)).flatten) := by
  induction buckets with
  | nil => simp [putRow]
  | cons entry rest ih =>
    simp only [putRow]
    split
    · simp only [List.map_cons, List.flatten_cons, List.append_assoc, List.singleton_append]
      exact List.perm_middle
    · simp only [List.map_cons, List.flatten_cons]
      exact ((List.Perm.append_left entry.2 ih).trans List.perm_middle)

/-- Bringing rows together loses none and repeats none. -/
theorem flatten_bucketRows_perm (rows : List ReportRow) :
    ((bucketRows rows).map (·.2)).flatten.Perm rows := by
  suffices h : ∀ buckets : List (String × List ReportRow),
      ((rows.foldl (fun buckets r => putRow r buckets) buckets).map (·.2)).flatten.Perm
        ((buckets.map (·.2)).flatten ++ rows) by
    simpa [bucketRows] using h []
  induction rows with
  | nil => simp
  | cons r rows ih =>
    intro buckets
    refine (ih (putRow r buckets)).trans ?_
    exact ((flatten_putRow_perm r buckets).append_right rows).trans List.perm_middle.symm

/-! ## Reports -/

/-- The rows of a report: one by one, or brought together by the first of two group fields; and
whether shares are shown for each. -/
inductive ReportBody
  | flat (percent : Bool) (rows : List ReportRow)
  | nested (percent childPercent : Bool) (buckets : List Bucket)
deriving DecidableEq, Repr

/-- The rows of a report without those that others are brought together under. -/
def ReportBody.leaves : ReportBody → List ReportRow
  | flat _ rows => rows
  | nested _ _ buckets => buckets.flatMap Bucket.children

/-- The counts of the rows at the top of a report. -/
def ReportBody.topCounts : ReportBody → List (List Int)
  | flat _ rows => rows.map ReportRow.counts
  | nested _ _ buckets => buckets.map Bucket.counts

/-- A report. -/
structure Report where
  totals : List Int
  entity : String
  description : String
  ratio : Bool
  labels : List String
  body : ReportBody
deriving DecidableEq, Repr

/-! ## Parts of the text -/

/-- Texts with a separator between them, empty ones left out. -/
def joinFilled (sep : String) (parts : List String) : String :=
  joinWith sep (parts.filter (· != ""))

/-- Counts with the last one in front. -/
def countText (counts : List Int) : String := joinWith "/" (counts.reverse.map intText)

/-- A key with its counts, unless there is exactly one. -/
def countedKey (counts : List Int) (key : Option Cell) : String :=
  let keyText := (key.map Cell.shown).getD ""
  if countText counts = "1" then keyText else countText counts ++ "x " ++ keyText

/-- The share of a count in a whole, in parentheses, if it is shown. -/
def shareText (shown : Bool) (count whole : Int) : String :=
  if shown then "(" ++ percentage (.ofInt count) (.ofInt whole) ++ ")" else ""

/-- The slots of one extra column: a value, or two values and the share of the second in the
first. -/
def slotsText : List Cell → String
  | [] => ""
  | [value] => value.shown
  | den :: num :: _ =>
    num.shown ++ "/" ++ den.shown ++ " (" ++ percentage num.asNumber den.asNumber ++ ")"

/-- The share of the second count in the first, if there are two, and the extra columns, in
brackets. -/
def extrasText (counts : List Int) (extras : List (List Cell)) : String :=
  let share := match counts with
    | den :: num :: _ => [percentage (.ofInt num) (.ofInt den)]
    | _ => []
  let inside := joinFilled ";" (share ++ [joinWith ";" (extras.map slotsText)])
  if inside = "" then "" else "[" ++ inside ++ "]"

/-! ## The text -/

/-- The text of a row of a whole. A row without a key shows its extra columns by their labels. -/
def ReportRow.text (share : Bool) (labels : List String) (whole : Int) (r : ReportRow) : String :=
  match r.key? with
  | some key =>
    joinFilled " " [countedKey r.counts (some key), shareText share r.count whole,
      extrasText r.counts r.extras]
  | none =>
    joinWith "; " (r.extras.mapIdx fun i values => (labels[i]?).getD "?" ++ "=" ++ slotsText values)

/-- The text of rows brought together, with those rows in parentheses. -/
def Bucket.text (share childShare : Bool) (labels : List String) (whole : Int) (b : Bucket) :
    String :=
  joinFilled " " [countedKey b.counts b.key, shareText share b.count whole] ++ " (" ++
    joinWith ", " (b.children.map (ReportRow.text childShare labels b.count)) ++ ")"

/-- The counts at the head of a report; one single row is counted by a word. -/
def totalsText : List Int → String
  | [n] => if n = 1 then "One" else intText n
  | totals => countText totals

namespace Report

/-- The first of the totals. -/
def total (r : Report) : Int := r.totals.head?.getD 0

/-- The texts of the rows. Shares are shown only if there are no ratios. -/
def rowTexts (r : Report) : List String :=
  match r.body with
  | .flat percent rows => rows.map (ReportRow.text (percent && !r.ratio) r.labels r.total)
  | .nested percent childPercent buckets =>
    buckets.map (Bucket.text (percent && !r.ratio) (childPercent && !r.ratio) r.labels r.total)

/-- The reply that shows a report. -/
def text (r : Report) : String :=
  totalsText r.totals ++ " " ++ plural r.entity r.total ++ " for " ++ r.description ++ ": " ++
    joinWith ", " r.rowTexts

end Report

end GameLog
