import GameLog.Proofs.Report.RowOrder
import GameLog.Proofs.Report.Slots
import GameLog.Proofs.Report.Totals

/-!
# The order of the rows of a report

The rows of a report are emitted in the order of the rows of the first answer, from which they are
merged, and those that the filters keep are sorted; with two group fields those of one value are sorted
under it, and then the values in the order in which they were first seen. Sorting is stable at both
levels, so rows that the sorts do not tell apart stand in the order in which they were emitted.

Main statements:
* `mergedRows_eq_map`: each merged row comes from a row of the first answer, in their order;
* `keys_bucketRows`: values are first seen in the order of the rows;
* `siblingsSorted_reportBody`: the rows of a body are sorted stably beside each other;
* `report_rows_sorted`: so are those of every report, from the order of the first answer.
-/

namespace GameLog

open ReportRow

/-! ## The order in which rows are emitted -/

/-- The rows of answers that report rows come from: all rows of a single answer, else the first row of
each key of the first answer. -/
def seedingRows (groups : Nat) : List (List Row) → List Row
  | [] => []
  | [answer] => answer
  | first :: _ => seedRows groups first

/-- The report row that comes from a row of the first answer. -/
def mergedRow (groups : Nat) (answers : List (List Row)) (seed : Row) : ReportRow :=
  match answers with
  | [_] => ofRow groups seed
  | answers => fullRow groups seed answers

/-- **Each merged row comes from a row of the first answer**, in their order. -/
theorem mergedRows_eq_map (groups : Nat) (answers : List (List Row)) :
    mergedRows groups answers =
      (seedingRows groups answers).map (mergedRow groups answers) := by
  match answers with
  | [] => rfl
  | [answer] => rfl
  | first :: second :: rest => exact mergedRows_eq first second rest

theorem sublist_seedRows (groups : Nat) (answer : List Row) :
    (seedRows groups answer).Sublist answer := by
  induction answer using List.reverseRecOn with
  | nil => exact .slnil
  | append_singleton answer row ih =>
    rw [seedRows_append, addSeed]
    split
    · exact ih.trans (List.sublist_append_left ..)
    · exact ih.append_right [row]

theorem sublist_seedingRows (groups : Nat) (first : List Row) (rest : List (List Row)) :
    (seedingRows groups (first :: rest)).Sublist first := by
  cases rest with
  | nil => exact .refl first
  | cons second rest => exact sublist_seedRows groups first

/-- **Values are first seen in the order of the rows.** -/
theorem keys_bucketRows (rows : List ReportRow) :
    (bucketRows rows).map (·.1) = (rows.map bucketKey).eraseDups := by
  induction rows using List.reverseRecOn with
  | nil => rfl
  | append_singleton rows r ih =>
    have hput : bucketRows (rows ++ [r]) = putRow r (bucketRows rows) := by
      rw [bucketRows, List.foldl_append]
      rfl
    have hbuckets := bucketsOf_bucketRows rows
    have hseen : bucketKey r ∈ (bucketRows rows).map (·.1) ↔ bucketKey r ∈ rows.map bucketKey := by
      rw [hbuckets.keys, List.mem_map]
    rw [hput, List.map_append, List.eraseDups_append, ← ih, List.map_singleton, List.removeAll,
      List.filter_singleton]
    by_cases hknown : bucketKey r ∈ (bucketRows rows).map (·.1)
    · have helem : (rows.map bucketKey).elem (bucketKey r) = true :=
        List.elem_eq_true_of_mem (hseen.mp hknown)
      rw [putRow_of_mem hbuckets.nodup hknown, helem, List.map_map]
      exact (List.append_nil _).symm
    · have helem : (rows.map bucketKey).elem (bucketKey r) = false := by
        simpa using fun h => hknown (hseen.mpr h)
      rw [putRow_of_notMem hknown, helem, List.map_append]
      rfl

/-! ## Bodies of reports -/

/-- **The rows of a body are sorted stably beside each other** from the order in which they are emitted:
all rows, or those of each value under it and the values from the order in which they were first seen.
-/
def ReportBody.SiblingsSorted (sorts : List SortCondition) (emitted : List ReportRow) :
    ReportBody → Prop
  | .flat _ rows => StablySorted (siblingOrder sorts ReportRow.values ReportRow.count) emitted rows
  | .nested _ _ buckets =>
    (∃ seen : List Bucket, seen.map Bucket.keyText = (emitted.map bucketKey).eraseDups ∧
      StablySorted (siblingOrder sorts Bucket.values Bucket.count) seen buckets) ∧
    ∀ b ∈ buckets, StablySorted (siblingOrder sorts ReportRow.values ReportRow.count)
      (rowsUnder b.keyText emitted) b.children

/-- **The rows of a body are sorted stably beside each other.** -/
theorem siblingsSorted_reportBody (fields : List GroupField) (sorts : List SortCondition)
    (rows : List ReportRow) : (reportBody fields sorts rows).SiblingsSorted sorts rows := by
  unfold reportBody
  split
  · refine ⟨⟨(bucketRows rows).filterMap fun entry => Bucket.ofRows sorts entry.2, ?_, ?_⟩,
      fun b hb => ?_⟩
    · rw [map_keyText_filterMap fun _ => exists_ofRows_of_mem sorts, keys_bucketRows]
    · exact stablySorted_sortRows sorts Bucket.values Bucket.count _
    · obtain ⟨first, -, -, -, -, hchildren⟩ := Bucket.exists_first (ofRows_of_mem_nestRows hb)
      rw [hchildren]
      exact stablySorted_sortRows sorts ReportRow.values ReportRow.count _
  · exact stablySorted_sortRows sorts ReportRow.values ReportRow.count rows

/-! ## Reports -/

/-- **The rows of every report stand in the order of its sorts, stably**: they are emitted in the order
of the rows of the first answer that they come from, as far as they pass the filters, and from that order
the rows beside each other are sorted stably, at the top and under each value. -/
theorem report_rows_sorted {d : Driver} {g : QueryGroup} {before calls : List Call} {report : Report}
    (hrun : (askReport d g).run before = (.ok (some report), calls)) :
    ∃ first rest, GroupsAre d (before ++ g.queries.map fun q => .count q.selectCount) g.queries
        (first :: rest) ∧
      (seedingRows g.primary.groupFields.length (first :: rest)).Sublist first ∧
      report.body.SiblingsSorted g.sorts
        (((seedingRows g.primary.groupFields.length (first :: rest)).map
          (mergedRow g.primary.groupFields.length (first :: rest))).filter
            fun r => r.Passes g.filters) := by
  obtain ⟨counts, answers, -, hgroups, hreport⟩ := askReport_eq_some hrun
  obtain ⟨hbody, -⟩ := report_eq_some hreport
  have hlength := hgroups.length_eq
  cases answers with
  | nil => cases hlength
  | cons first rest =>
    refine ⟨first, rest, hgroups, sublist_seedingRows _ first rest, ?_⟩
    rw [hbody, ← mergedRows_eq_map, ← keptRows_eq]
    exact siblingsSorted_reportBody ..

/-- Over the built-in catalog, species and backgrounds with an average level stand in the order of two
sorts, stably. -/
theorem gap_report_rows_sorted : ∃ g report calls,
    QueryGroup.parse .builtin .game "*" ["s=race,cls", "x=avg(xl)", "o=%.avg(xl),-.", "num.n>=0",
      "/", "xl>5", "/", "xl>9"] = .ok g ∧
      (askReport gapDriver g).run [] = (.ok (some report), calls) ∧ g.sorts.length = 2 ∧
      ∃ first rest, GroupsAre gapDriver ([] ++ g.queries.map fun q => .count q.selectCount)
          g.queries (first :: rest) ∧
        (seedingRows g.primary.groupFields.length (first :: rest)).Sublist first ∧
        report.body.SiblingsSorted g.sorts
          (((seedingRows g.primary.groupFields.length (first :: rest)).map
            (mergedRow g.primary.groupFields.length (first :: rest))).filter
              fun r => r.Passes g.filters) := by
  have hgroup : (QueryGroup.parse .builtin .game "*" ["s=race,cls", "x=avg(xl)", "o=%.avg(xl),-.",
      "num.n>=0", "/", "xl>5", "/", "xl>9"]).toOption.map (fun g =>
        (((askReport gapDriver g).run []).1.toOption.map Option.isSome, g.sorts.length)) =
      some (some true, 2) := by decide +kernel
  obtain ⟨g, hparse, hboth⟩ := exists_ok_of_map hgroup
  obtain ⟨hsome, hsorts⟩ := Prod.mk.inj hboth
  obtain ⟨report, hrun⟩ := exists_some_of_isSome hsome
  exact ⟨g, report, _, hparse, hrun, hsorts, report_rows_sorted hrun⟩

end GameLog
