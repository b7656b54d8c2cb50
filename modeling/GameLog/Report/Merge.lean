import GameLog.Query.Group
import GameLog.Report.Basic

/-!
# Making reports

A report is made in two rounds: every query is counted, and if none is without rows every query is
read in groups. The groups of the first query seed the rows of the report, and those of the others
are merged into them; then the filters choose among the rows.

Main statements:
* `keys_mergeAnswer`: only the first query seeds rows;
* `leaves_reportBody`: the body of a report shows each row once;
* `report_eq_none_iff`: there is no report exactly if the filters leave no row.
-/

namespace GameLog

/-! ## Merging answers -/

/-- The rows merged so far, each with the text of its group. -/
abbrev MergedRows := List (String × ReportRow)

/-- A row of the query at a place merged in: into the row of its group if there is one, as a new row
if it is of the first query. -/
def mergeRow (place : Nat) (merged : MergedRows) (row : ReportRow) : MergedRows :=
  let key := row.mergeKey
  if merged.any (·.1 == key) then
    merged.map fun entry => if entry.1 = key then (entry.1, entry.2.combine row place) else entry
  else if place = 0 then merged ++ [(key, row)]
  else merged

/-- The rows of the answer to the query at a place merged in. -/
def mergeAnswer (groups place : Nat) (merged : MergedRows) (answer : List Row) : MergedRows :=
  (answer.map (ReportRow.ofRow groups)).foldl (mergeRow place) merged

/-- The rows of answers to the queries from a place on merged in. -/
def mergeAnswers (groups : Nat) : Nat → MergedRows → List (List Row) → MergedRows
  | _, merged, [] => merged
  | place, merged, answer :: answers =>
    mergeAnswers groups (place + 1) (mergeAnswer groups place merged answer) answers

/-- The report rows of answers, one answer for each query. The rows of a single query stay as they
are. -/
def mergedRows (groups : Nat) (answers : List (List Row)) : List ReportRow :=
  match answers with
  | [answer] => answer.map (ReportRow.ofRow groups)
  | answers => (mergeAnswers groups 0 [] answers).map fun entry => entry.2.pad answers.length

theorem keys_mergeRow {place : Nat} (h : place ≠ 0) (merged : MergedRows) (row : ReportRow) :
    (mergeRow place merged row).map (·.1) = merged.map (·.1) := by
  unfold mergeRow
  simp only
  split
  · simp only [List.map_map]
    congr 1
    funext entry
    simp only [Function.comp]
    split <;> rfl
  · simp

/-- Only the first query seeds rows. -/
theorem keys_mergeAnswer {place : Nat} (h : place ≠ 0) (groups : Nat) (merged : MergedRows)
    (answer : List Row) :
    (mergeAnswer groups place merged answer).map (·.1) = merged.map (·.1) := by
  unfold mergeAnswer
  induction answer.map (ReportRow.ofRow groups) generalizing merged with
  | nil => rfl
  | cons row rows ih => rw [List.foldl_cons, ih, keys_mergeRow h]

/-! ## The report -/

/-- The rows that all filters keep. -/
def keptRows (filters : List RowFilter) (rows : List ReportRow) : List ReportRow :=
  rows.filter fun r => filters.all (·.keeps r.values)

/-- Rows brought together by the first of two group fields. -/
def nestRows (sorts : List SortCondition) (rows : List ReportRow) : List Bucket :=
  sortRows sorts Bucket.values Bucket.count
    ((bucketRows rows).filterMap fun entry => Bucket.ofRows sorts entry.2)

/-- The body of a report on rows, by the fields of its groups. -/
def reportBody (fields : List GroupField) (sorts : List SortCondition) (rows : List ReportRow) :
    ReportBody :=
  match fields with
  | first :: second :: _ => .nested first.percent second.percent (nestRows sorts rows)
  | fields =>
    .flat (fields.head?.any (·.percent)) (sortRows sorts ReportRow.values ReportRow.count rows)

/-- Rows brought together under their values are the rows that were there. -/
theorem children_nestRows (sorts : List SortCondition) (rows : List ReportRow) :
    ((nestRows sorts rows).flatMap Bucket.children).Perm rows := by
  refine ((perm_sortRows _ _ _ _).flatMap_right _).trans (.trans ?_ (flatten_bucketRows_perm rows))
  induction bucketRows rows with
  | nil => simp
  | cons entry rest ih =>
    rcases h : Bucket.ofRows sorts entry.2 with _ | b
    · have : entry.2 = [] := by
        cases he : entry.2 with
        | nil => rfl
        | cons first rest => simp [he, Bucket.ofRows] at h
      simpa [List.filterMap_cons, this, Bucket.ofRows] using ih
    · simpa [List.filterMap_cons, h] using (Bucket.children_ofRows h).append ih

/-- The body of a report shows each row once. -/
theorem leaves_reportBody (fields : List GroupField) (sorts : List SortCondition)
    (rows : List ReportRow) : (reportBody fields sorts rows).leaves.Perm rows := by
  unfold reportBody
  split
  · exact children_nestRows sorts rows
  · exact perm_sortRows _ _ _ _

/-- The report of counts and answers, one for each query, unless the filters leave no row. -/
def QueryGroup.report (g : QueryGroup) (counts : List Int) (answers : List (List Row)) :
    Option Report :=
  let fields := g.primary.groupFields
  let rows := keptRows g.filters (mergedRows fields.length answers)
  if !g.filters.isEmpty && rows.isEmpty then none
  else some {
    totals := if g.filters.isEmpty then counts
      else ReportRow.sumCounts g.queries.length rows
    entity := g.entity
    description := g.description
    ratio := g.isRatio
    labels := g.extra.fields.map (·.label)
    body := reportBody fields g.sorts rows }

/-- There is no report exactly if there are filters and they leave no row. -/
theorem QueryGroup.report_eq_none_iff {g : QueryGroup} {counts : List Int}
    {answers : List (List Row)} :
    g.report counts answers = none ↔ g.filters ≠ [] ∧
      keptRows g.filters (mergedRows g.primary.groupFields.length answers) = [] := by
  unfold QueryGroup.report
  simp only
  split <;> rename_i h <;> simpa using h

/-! ## Asking -/

/-- The counts of queries, unless one of them is zero; the queries behind it are not counted. -/
def askCounts (d : Driver) : List Query → Asking (Option (List Int))
  | [] => return some []
  | q :: qs => do
    let n ← d.askCount q.selectCount
    if n = 0 then return none
    return (← askCounts d qs).map (n :: ·)

/-- The groups of queries. -/
def askGroups (d : Driver) : List Query → Asking (List (List Row))
  | [] => return []
  | q :: qs => do
    let statement ← (q.selectGroups : Except QueryError Statement)
    let answer ← d.askRows statement none none
    return answer :: (← askGroups d qs)

/-- The report that a driver makes of queries, unless there is nothing to show. -/
def askReport (d : Driver) (g : QueryGroup) : Asking (Option Report) := do
  let some counts ← askCounts d g.queries | return none
  return g.report counts (← askGroups d g.queries)

end GameLog
