import GameLog.Proofs.Report.Nesting
import Mathlib.Algebra.BigOperators.Group.List.Basic

/-!
# Filters and totals

Filters choose among the merged rows, and then the rows kept are brought together. The totals at the
head of a report are the counts that the driver answered; where filters chose, they are summed up anew
from the rows kept, and the rows at the top of a report on two group fields are summed up a third time.

Main statements:
* `sumsUp_reportBody`: the totals of rows are the sums of the leaves and of the rows at the top;
* `filtered_report_exact`: which rows a report shows, and what its totals are.
-/

namespace GameLog

open ReportRow

/-- **A row passes filters** if each of them keeps it. -/
def ReportRow.Passes (filters : List RowFilter) (r : ReportRow) : Prop :=
  ∀ f ∈ filters, f.keeps r.values = true

instance (filters : List RowFilter) (r : ReportRow) : Decidable (r.Passes filters) :=
  inferInstanceAs (Decidable (∀ f ∈ filters, f.keeps r.values = true))

/-- The sum of the counts at a place. -/
def placeSum (place : Nat) (counts : List (List Int)) : Int :=
  (counts.map fun cs => (cs[place]?).getD 0).sum

/-- **Totals sum up the body of a report**: there are so many, and each is the sum of the counts at its
place, of the leaves and of the rows at the top. -/
structure SumsUp (width : Nat) (totals : List Int) (body : ReportBody) : Prop where
  length : totals.length = width
  leaves : ∀ place < width, totals[place]? = some (placeSum place (body.leaves.map counts))
  top : ∀ place < width, totals[place]? = some (placeSum place body.topCounts)

/-! ## The rows kept -/

theorem keptRows_eq (filters : List RowFilter) (rows : List ReportRow) :
    keptRows filters rows = rows.filter fun r => r.Passes filters := by
  refine List.filter_congr fun r _ => ?_
  rw [Bool.eq_iff_iff, List.all_eq_true, decide_eq_true_iff]
  rfl

theorem keptRows_eq_nil_iff {filters : List RowFilter} {rows : List ReportRow} :
    keptRows filters rows = [] ↔ ∀ r ∈ rows, ¬r.Passes filters := by
  rw [keptRows_eq, List.filter_eq_nil_iff]
  simp only [decide_eq_true_iff]

/-! ## Sums over rows brought together -/

theorem placeSum_counts (place : Nat) (rows : List ReportRow) :
    placeSum place (rows.map counts) = (rows.map (countAt place)).sum := by
  rw [placeSum, List.map_map]
  rfl

theorem placeSum_perm (place : Nat) {as bs : List (List Int)} (h : as.Perm bs) :
    placeSum place as = placeSum place bs := (h.map _).sum_eq

/-- **Rows brought together have the sums of the rows under them.** -/
theorem ExactNesting.placeSum_eq {width : Nat} {rows : List ReportRow} {buckets : List Bucket}
    (h : ExactNesting width rows buckets) {place : Nat} (hplace : place < width) :
    placeSum place (buckets.map Bucket.counts) = placeSum place (rows.map ReportRow.counts) := by
  have hbucket : ∀ b ∈ buckets,
      (b.counts[place]?).getD 0 = (b.children.map (countAt place)).sum := by
    intro b hb
    rw [h.counts b hb, List.getElem?_map, List.getElem?_range hplace]
    rfl
  calc placeSum place (buckets.map Bucket.counts)
      = (buckets.map fun b => (b.children.map (countAt place)).sum).sum := by
        rw [placeSum, List.map_map]
        exact congrArg List.sum (List.map_congr_left hbucket)
    _ = ((buckets.flatMap Bucket.children).map (countAt place)).sum := by
        rw [List.map_flatMap, List.flatMap, List.sum_flatten, List.map_map]
        rfl
    _ = placeSum place (rows.map ReportRow.counts) := by
        rw [placeSum_counts]
        exact (h.children.map _).sum_eq

/-- **The sums of rows sum up the body of a report on them.** -/
theorem sumsUp_reportBody {width : Nat} {rows : List ReportRow}
    (hwidth : ∀ r ∈ rows, r.counts.length = width) (fields : List GroupField)
    (sorts : List SortCondition) :
    SumsUp width (sumCounts width rows) (reportBody fields sorts rows) := by
  have hsum : ∀ place < width,
      (sumCounts width rows)[place]? = some (placeSum place (rows.map counts)) := by
    intro place hplace
    rw [getElem?_sumCounts, if_pos hplace, countSum_eq, placeSum_counts]
  constructor
  · rw [sumCounts_eq, List.length_map, List.length_range]
  · intro place hplace
    rw [hsum place hplace, placeSum_perm place ((leaves_reportBody fields sorts rows).map counts)]
  · intro place hplace
    rw [hsum place hplace]
    unfold reportBody
    split
    · rw [ReportBody.topCounts, (exactNesting_nestRows hwidth sorts).placeSum_eq hplace]
    · rw [ReportBody.topCounts, placeSum_perm place ((perm_sortRows ..).map counts)]

/-! ## Reports -/

/-- **Which rows a report shows and what its totals are**, for all answers of a driver that counts every
query, none of the counts being zero, and reads the groups of every query. With filters there is no
report exactly if no merged row passes all of them; else its leaves are the merged rows that do, and its
totals sum them up. Without filters there is always a report, its leaves are all merged rows, and its
totals are the counts answered. -/
theorem filtered_report_exact {d : Driver} {g : QueryGroup} {before : List Call} {counts : List Int}
    {answers : List (List Row)} (hcounts : CountsAre d before g.queries counts)
    (hgroups : GroupsAre d (before ++ g.queries.map fun q => .count q.selectCount) g.queries
      answers) :
    ∃ found calls, (askReport d g).run before = (.ok found, calls) ∧
      (g.filters ≠ [] →
        (found = none ↔
          ∀ r ∈ mergedRows g.primary.groupFields.length answers, ¬r.Passes g.filters) ∧
        ∀ report, found = some report →
          report.body.leaves.Perm ((mergedRows g.primary.groupFields.length answers).filter
            fun r => r.Passes g.filters) ∧
          SumsUp g.queries.length report.totals report.body) ∧
      (g.filters = [] → ∃ report, found = some report ∧
        report.body.leaves.Perm (mergedRows g.primary.groupFields.length answers) ∧
        report.totals = counts) := by
  obtain ⟨calls, hrun⟩ := askReport_run hcounts hgroups
  refine ⟨g.report counts answers, calls, hrun, fun hfilters => ⟨?_, fun report hreport => ?_⟩,
    fun hnone => ?_⟩
  · rw [QueryGroup.report_eq_none_iff, keptRows_eq_nil_iff]
    exact and_iff_right hfilters
  · have hlength := hgroups.length_eq
    have hne : answers ≠ [] := by
      rintro rfl
      cases hlength
    have hwidth : ∀ r ∈ keptRows g.filters (mergedRows g.primary.groupFields.length answers),
        r.counts.length = g.queries.length := by
      intro r hr
      rw [← hlength]
      exact length_counts_mergedRows hne r (List.mem_filter.mp hr).1
    obtain ⟨hbody, htotals⟩ := report_eq_some hreport
    rw [List.isEmpty_eq_false_iff.mpr hfilters, if_neg Bool.false_ne_true] at htotals
    rw [hbody, htotals, ← keptRows_eq]
    exact ⟨leaves_reportBody _ _ _, sumsUp_reportBody hwidth _ _⟩
  · obtain ⟨report, hreport, hleaves⟩ := report_of_filters_nil hnone counts answers
    obtain ⟨-, htotals⟩ := report_eq_some hreport
    rw [hnone, List.isEmpty_nil, if_pos rfl] at htotals
    exact ⟨report, hreport, hleaves, htotals⟩

/-- Over the built-in catalog, a filter on two queries keeps three of the merged rows of these answers and
leaves one out, and the totals of the report sum up the three. -/
theorem filtered_species_report_exact : ∃ g counts answers,
    QueryGroup.parse .builtin .game "*" ["s=race,cls", "num.n>=1", "/", "xl>5"] = .ok g ∧
      g.filters ≠ [] ∧ CountsAre speciesDriver [] g.queries counts ∧
      GroupsAre speciesDriver ([] ++ g.queries.map fun q => .count q.selectCount) g.queries answers ∧
      (∃ report calls, (askReport speciesDriver g).run [] = (.ok (some report), calls) ∧
        report.body.leaves.Perm ((mergedRows g.primary.groupFields.length answers).filter
          fun r => r.Passes g.filters) ∧
        SumsUp g.queries.length report.totals report.body ∧ report.totals = [13, 7] ∧
        report.body.leaves.Perm [⟨[.text "B", .text "warrior"], [2, 1], []⟩,
          ⟨[.text "a", .text "mage"], [4, 2], []⟩, ⟨[.text "b", .text "mage"], [7, 4], []⟩]) ∧
      ⟨[.text "A", .text "warrior"], [5, 0], []⟩ ∈
        mergedRows g.primary.groupFields.length answers := by
  have hgroup : (QueryGroup.parse .builtin .game "*"
      ["s=race,cls", "num.n>=1", "/", "xl>5"]).toOption.map (fun g =>
        (decide (g.filters = [⟨⟨.count, .numerator, "num.n"⟩, .ge, .ofInt 1⟩]),
          g.primary.groupFields.length,
          ((askGroups speciesDriver g.queries).run ([] ++ g.queries.map fun q =>
            .count q.selectCount)).1.toOption.map fun answers =>
              decide (answers = [speciesAnswer, furtherSpeciesAnswer]),
          ((askReport speciesDriver g).run []).1.toOption.map fun found =>
            decide (found.map Report.totals = some [13, 7]))) =
      some (true, 2, some true, some true) := by decide +kernel
  obtain ⟨g, hparse, hall⟩ := exists_ok_of_map hgroup
  simp only [Prod.mk.injEq] at hall
  obtain ⟨hchosen, hfields, hanswers, htotals⟩ := hall
  have hfilters := of_decide_eq_true hchosen
  have hne : g.filters ≠ [] := by rw [hfilters]; simp
  obtain ⟨asked, hasked, hsame⟩ := exists_ok_of_map hanswers
  obtain rfl := of_decide_eq_true hsame
  obtain ⟨found, hfound, hreport⟩ := exists_ok_of_map htotals
  obtain ⟨report, rfl, htotals⟩ := Option.map_eq_some_iff.mp (of_decide_eq_true hreport)
  have hrun : (askReport speciesDriver g).run [] =
      (.ok (some report), ((askReport speciesDriver g).run []).2) := Prod.ext hfound rfl
  obtain ⟨counts, answers, hcounts, hgroups, -⟩ := askReport_eq_some hrun
  obtain rfl : answers = [speciesAnswer, furtherSpeciesAnswer] :=
    hgroups.unique (groupsAre_of_run (Prod.ext hasked rfl))
  obtain ⟨shown, calls, hshown, hkept, -⟩ := filtered_report_exact hcounts hgroups
  obtain ⟨hresult, hcalls⟩ := Prod.mk.inj (hshown.symm.trans hrun)
  obtain rfl := Except.ok.inj hresult
  obtain ⟨hleaves, hsums⟩ := (hkept hne).2 report rfl
  have hrows : ((mergedRows 2 [speciesAnswer, furtherSpeciesAnswer]).filter fun r =>
      r.Passes [⟨⟨.count, .numerator, "num.n"⟩, .ge, .ofInt 1⟩]) =
      [⟨[.text "B", .text "warrior"], [2, 1], []⟩, ⟨[.text "a", .text "mage"], [4, 2], []⟩,
        ⟨[.text "b", .text "mage"], [7, 4], []⟩] := by decide +kernel
  have hdropped : (⟨[.text "A", .text "warrior"], [5, 0], []⟩ : ReportRow) ∈
      mergedRows 2 [speciesAnswer, furtherSpeciesAnswer] := by decide +kernel
  rw [← hfields] at hrows hdropped
  rw [← hfilters] at hrows
  exact ⟨g, counts, _, hparse, hne, hcounts, hgroups, ⟨report, calls, hshown, hleaves, hsums, htotals,
    hleaves.trans (.of_eq hrows)⟩, hdropped⟩

end GameLog
