import GameLog.Proofs.Report.RatioMerge

/-!
# Rows brought together under their values

With two group fields the merged rows are put one by one into lists of one value each, and each list
becomes a row of the report with those rows under it. Each row that is put in keeps the lists exact
(`BucketsOf`): they hold all rows so far, each under the text of its first group cell in lower case.

Main statements:
* `BucketsOf.putRow`, `bucketsOf_bucketRows`: each row keeps the lists exact, and so do all;
* `exactNesting_nestRows`: nesting rows loses and repeats none, and adds up their counts;
* `nested_report_exact`: every report on two group fields is such a nesting of the rows kept.
-/

namespace GameLog

open GameLog.Text ReportRow

/-! ## Lists of one value -/

/-- The rows of a value of the first group field. -/
def rowsUnder (key : String) (rows : List ReportRow) : List ReportRow :=
  rows.filter fun r => bucketKey r == key

/-- **Lists hold the rows of one value each**: no value has two lists, each list has all rows of its
value in their order, and every row has a list. -/
structure BucketsOf (rows : List ReportRow) (buckets : List (String × List ReportRow)) : Prop where
  nodup : (buckets.map (·.1)).Nodup
  rows_eq : ∀ entry ∈ buckets, entry.2 = rowsUnder entry.1 rows
  keys : ∀ key, key ∈ buckets.map (·.1) ↔ ∃ r ∈ rows, bucketKey r = key

theorem putRow_of_notMem {r : ReportRow} {buckets : List (String × List ReportRow)}
    (h : bucketKey r ∉ buckets.map (·.1)) : putRow r buckets = buckets ++ [(bucketKey r, [r])] := by
  induction buckets with
  | nil => rfl
  | cons entry rest ih =>
    rw [List.map_cons, List.mem_cons, not_or] at h
    rw [putRow, if_neg (Ne.symm h.1), ih h.2]
    rfl

/-- A row of a known value is put behind those of its value. -/
theorem putRow_of_mem {r : ReportRow} {buckets : List (String × List ReportRow)}
    (hnodup : (buckets.map (·.1)).Nodup) (h : bucketKey r ∈ buckets.map (·.1)) :
    putRow r buckets = buckets.map fun entry =>
      (entry.1, entry.2 ++ if bucketKey r = entry.1 then [r] else []) := by
  induction buckets with
  | nil => cases h
  | cons entry rest ih =>
    obtain ⟨hfresh, hrest⟩ := List.nodup_cons.mp hnodup
    rw [putRow, List.map_cons]
    by_cases hkey : entry.1 = bucketKey r
    · -- no other list has this value
      have hother : rest.map (fun entry : String × List ReportRow =>
          (entry.1, entry.2 ++ if bucketKey r = entry.1 then [r] else [])) = rest := by
        refine (List.map_congr_left fun other hother => ?_).trans (List.map_id rest)
        have hne : bucketKey r ≠ other.1 := by
          intro heq
          exact hfresh (List.mem_map.mpr ⟨other, hother, heq.symm.trans hkey.symm⟩)
        rw [if_neg hne, List.append_nil]
        rfl
      rw [if_pos hkey, hother, if_pos hkey.symm]
    · have hmem : bucketKey r ∈ rest.map (·.1) := by
        rcases List.mem_cons.mp h with heq | hmem
        · exact absurd heq.symm hkey
        · exact hmem
      rw [if_neg hkey, ih hrest hmem, if_neg (Ne.symm hkey), List.append_nil]

theorem rowsUnder_append (key : String) (rows rows' : List ReportRow) :
    rowsUnder key (rows ++ rows') = rowsUnder key rows ++ rowsUnder key rows' :=
  List.filter_append ..

theorem rowsUnder_single (key : String) (r : ReportRow) :
    rowsUnder key [r] = if bucketKey r = key then [r] else [] := by
  by_cases h : bucketKey r = key <;> simp [rowsUnder, h]

/-- **A row that is put in keeps the lists exact.** -/
theorem BucketsOf.putRow {rows : List ReportRow} {buckets : List (String × List ReportRow)}
    (h : BucketsOf rows buckets) (r : ReportRow) :
    BucketsOf (rows ++ [r]) (GameLog.putRow r buckets) := by
  by_cases hknown : bucketKey r ∈ buckets.map (·.1)
  · rw [putRow_of_mem h.nodup hknown]
    constructor
    · rw [List.map_map]
      exact h.nodup
    · intro entry hentry
      obtain ⟨old, hold, rfl⟩ := List.mem_map.mp hentry
      rw [rowsUnder_append, rowsUnder_single, ← h.rows_eq old hold]
    · intro key
      rw [List.map_map]
      refine (h.keys key).trans ⟨?_, ?_⟩
      · rintro ⟨r', hr', hkey⟩
        exact ⟨r', by simp [hr'], hkey⟩
      · rintro ⟨r', hr', hkey⟩
        rcases List.mem_append.mp hr' with hr' | hr'
        · exact ⟨r', hr', hkey⟩
        · obtain rfl := List.mem_singleton.mp hr'
          rw [hkey] at hknown
          exact (h.keys key).mp hknown
  · rw [putRow_of_notMem hknown]
    have hnone : rowsUnder (bucketKey r) rows = [] := by
      refine List.filter_eq_nil_iff.mpr fun r' hr' hkey => hknown ?_
      exact (h.keys _).mpr ⟨r', hr', beq_iff_eq.mp hkey⟩
    constructor
    · rw [List.map_append, List.nodup_append]
      refine ⟨h.nodup, by simp, fun key hkey key' hkey' heq => hknown ?_⟩
      obtain rfl : key' = bucketKey r := List.mem_singleton.mp hkey'
      exact heq ▸ hkey
    · intro entry hentry
      rcases List.mem_append.mp hentry with hentry | hentry
      · have hne : bucketKey r ≠ entry.1 := by
          intro heq
          exact hknown (List.mem_map.mpr ⟨entry, hentry, heq.symm⟩)
        rw [rowsUnder_append, rowsUnder_single, if_neg hne, List.append_nil]
        exact h.rows_eq entry hentry
      · obtain rfl := List.mem_singleton.mp hentry
        rw [rowsUnder_append, rowsUnder_single, if_pos rfl, hnone]
        rfl
    · intro key
      rw [List.map_append, List.mem_append, h.keys key, List.map_singleton, List.mem_singleton]
      constructor
      · rintro (⟨r', hr', hkey⟩ | rfl)
        · exact ⟨r', by simp [hr'], hkey⟩
        · exact ⟨r, by simp, rfl⟩
      · rintro ⟨r', hr', hkey⟩
        rcases List.mem_append.mp hr' with hr' | hr'
        · exact .inl ⟨r', hr', hkey⟩
        · obtain rfl := List.mem_singleton.mp hr'
          exact .inr hkey.symm

/-- **Rows are brought together exactly.** -/
theorem bucketsOf_bucketRows (rows : List ReportRow) : BucketsOf rows (bucketRows rows) := by
  suffices h : ∀ seen rest : List ReportRow, ∀ buckets, BucketsOf seen buckets →
      BucketsOf (seen ++ rest) (rest.foldl (fun buckets r => putRow r buckets) buckets) from
    h [] rows [] ⟨List.nodup_nil, by simp, by simp⟩
  intro seen rest
  induction rest generalizing seen with
  | nil =>
    intro buckets h
    rwa [List.append_nil]
  | cons r rest ih =>
    intro buckets h
    have hnext := ih (seen ++ [r]) (putRow r buckets) (h.putRow r)
    rwa [List.append_assoc] at hnext

/-! ## Rows under their values -/

/-- The text of the value that rows are brought together under, in lower case. -/
def Bucket.keyText (b : Bucket) : String := lowerCase ((b.key.map Cell.shown).getD "")

/-- Rows of one value are brought together under it. -/
theorem Bucket.exists_ofRows (sorts : List SortCondition) {key : String} {rows : List ReportRow}
    (h : ∃ r ∈ rows, bucketKey r = key) :
    ∃ b, Bucket.ofRows sorts (rowsUnder key rows) = some b ∧ b.keyText = key := by
  obtain ⟨r, hr, hkey⟩ := h
  have hmem : r ∈ rowsUnder key rows := List.mem_filter.mpr ⟨hr, beq_iff_eq.mpr hkey⟩
  cases hrows : rowsUnder key rows with
  | nil =>
    rw [hrows] at hmem
    cases hmem
  | cons first rest =>
    have hfirst : first ∈ rowsUnder key rows := by simp [hrows]
    exact ⟨_, rfl, beq_iff_eq.mp (List.mem_filter.mp hfirst).2⟩

theorem map_keyText_filterMap {sorts : List SortCondition}
    {buckets : List (String × List ReportRow)}
    (h : ∀ entry ∈ buckets, ∃ b, Bucket.ofRows sorts entry.2 = some b ∧ b.keyText = entry.1) :
    (buckets.filterMap fun entry => Bucket.ofRows sorts entry.2).map Bucket.keyText =
      buckets.map (·.1) := by
  induction buckets with
  | nil => rfl
  | cons entry rest ih =>
    obtain ⟨b, hb, hkey⟩ := h entry (by simp)
    rw [List.filterMap_cons, hb, List.map_cons, List.map_cons, hkey,
      ih fun entry' hentry => h entry' (by simp [hentry])]

theorem exists_ofRows_of_mem (sorts : List SortCondition) {rows : List ReportRow}
    {entry : String × List ReportRow} (h : entry ∈ bucketRows rows) :
    ∃ b, Bucket.ofRows sorts entry.2 = some b ∧ b.keyText = entry.1 := by
  have hbuckets := bucketsOf_bucketRows rows
  rw [hbuckets.rows_eq entry h]
  exact Bucket.exists_ofRows sorts
    ((hbuckets.keys entry.1).mp (List.mem_map.mpr ⟨entry, h, rfl⟩))

theorem ofRows_of_mem_nestRows {sorts : List SortCondition} {rows : List ReportRow} {b : Bucket}
    (h : b ∈ nestRows sorts rows) : Bucket.ofRows sorts (rowsUnder b.keyText rows) = some b := by
  obtain ⟨entry, hin, hof⟩ := List.mem_filterMap.mp ((perm_sortRows _ _ _ _).mem_iff.mp h)
  obtain ⟨b', hof', hkey⟩ := exists_ofRows_of_mem sorts hin
  obtain rfl : b' = b := Option.some.inj (hof'.symm.trans hof)
  rwa [hkey, ← (bucketsOf_bucketRows rows).rows_eq entry hin]

/-- **Rows are nested exactly**: every row of the report has rows under it; these are the rows given,
each as often as it was there; they lie under the value that is the text of their first group cell in
lower case, and no two values have the same text; every row has so many counts, and the counts of a
value are the sums of those under it. -/
structure ExactNesting (width : Nat) (rows : List ReportRow) (buckets : List Bucket) : Prop where
  filled : ∀ b ∈ buckets, b.children ≠ []
  children : (buckets.flatMap Bucket.children).Perm rows
  under : ∀ b ∈ buckets, b.children.Perm (rows.filter fun r => bucketKey r == b.keyText)
  nodup : (buckets.map Bucket.keyText).Nodup
  slots : ∀ r ∈ rows, r.counts.length = width
  counts : ∀ b ∈ buckets, b.counts =
    (List.range width).map fun place => (b.children.map (countAt place)).sum

theorem countSum_eq (place : Nat) (rows : List ReportRow) :
    countSum place rows = (rows.map (countAt place)).sum := by
  induction rows with
  | nil => rfl
  | cons r rows ih => rw [countSum, List.foldr_cons, List.map_cons, List.sum_cons, ← ih]; rfl

theorem sumCounts_eq (width : Nat) (rows : List ReportRow) :
    sumCounts width rows = (List.range width).map fun place => (rows.map (countAt place)).sum := by
  refine List.ext_getElem? fun place => ?_
  rw [getElem?_sumCounts, List.getElem?_map, countSum_eq]
  by_cases h : place < width
  · rw [if_pos h, List.getElem?_range h]
    rfl
  · rw [if_neg h, List.getElem?_eq_none (by simpa using h)]
    rfl

/-- **Bringing rows together nests them exactly.** -/
theorem exactNesting_nestRows {width : Nat} {rows : List ReportRow}
    (hwidth : ∀ r ∈ rows, r.counts.length = width) (sorts : List SortCondition) :
    ExactNesting width rows (nestRows sorts rows) := by
  constructor
  · intro b hb hnil
    have hof := ofRows_of_mem_nestRows hb
    have hperm := Bucket.children_ofRows hof
    rw [hnil] at hperm
    rw [List.nil_perm.mp hperm] at hof
    cases hof
  · exact children_nestRows sorts rows
  · exact fun b hb => Bucket.children_ofRows (ofRows_of_mem_nestRows hb)
  · have hkeys : ((nestRows sorts rows).map Bucket.keyText).Perm ((bucketRows rows).map (·.1)) :=
      ((perm_sortRows _ _ _ _).map _).trans
        (.of_eq (map_keyText_filterMap fun _ => exists_ofRows_of_mem sorts))
    exact hkeys.nodup_iff.mpr (bucketsOf_bucketRows rows).nodup
  · exact hwidth
  · intro b hb
    have hof := ofRows_of_mem_nestRows hb
    have hperm := Bucket.children_ofRows hof
    cases hrows : rowsUnder b.keyText rows with
    | nil =>
      rw [hrows] at hof
      cases hof
    | cons first rest =>
      have hfirst : first ∈ rowsUnder b.keyText rows := by simp [hrows]
      rw [hrows] at hof hperm
      rw [Bucket.counts_ofRows hof, hwidth first (List.mem_filter.mp hfirst).1,
        ← sumCounts_perm width hperm, sumCounts_eq]

/-! ## Reports on two group fields -/

/-- Merged rows have a count for each answer. -/
theorem length_counts_mergedRows {groups : Nat} {answers : List (List Row)} (h : answers ≠ []) :
    ∀ r ∈ mergedRows groups answers, r.counts.length = answers.length := by
  intro r hr
  match answers with
  | [] => exact absurd rfl h
  | [answer] =>
    obtain ⟨row, -, rfl⟩ := List.mem_map.mp hr
    rfl
  | first :: second :: rest =>
    rw [mergedRows_eq] at hr
    obtain ⟨seed, -, rfl⟩ := List.mem_map.mp hr
    exact List.length_map _

/-- **A report on two group fields nests the rows that the filters keep exactly**, whatever a driver
answers. -/
theorem nested_report_exact {d : Driver} {g : QueryGroup} {before calls : List Call}
    {report : Report} (hgroups : g.primary.groupFields.length = 2)
    (h : (askReport d g).run before = (.ok (some report), calls)) :
    ∃ counts answers percent childPercent buckets,
      CountsAre d before g.queries counts ∧
      GroupsAre d (before ++ g.queries.map fun q => .count q.selectCount) g.queries answers ∧
      report.body = .nested percent childPercent buckets ∧
      ExactNesting g.queries.length (keptRows g.filters (mergedRows 2 answers)) buckets := by
  obtain ⟨counts, answers, hcounts, hanswers, hreport⟩ := askReport_eq_some h
  obtain ⟨first, second, hfields⟩ := List.length_eq_two.mp hgroups
  have hlength := hanswers.length_eq
  have hwidth : ∀ r ∈ keptRows g.filters (mergedRows 2 answers),
      r.counts.length = g.queries.length := by
    intro r hr
    rw [← hlength]
    refine length_counts_mergedRows (fun hnil => ?_) r (List.mem_filter.mp hr).1
    rw [hnil] at hlength
    cases hlength
  refine ⟨counts, answers, first.percent, second.percent,
    nestRows g.sorts (keptRows g.filters (mergedRows 2 answers)), hcounts, hanswers, ?_,
    exactNesting_nestRows hwidth g.sorts⟩
  unfold QueryGroup.report at hreport
  rw [hfields] at hreport
  dsimp only at hreport
  split at hreport
  · cases hreport
  · obtain rfl := Option.some.inj hreport
    rfl

/-- Species and backgrounds in different letter case. -/
def speciesAnswer : List Row :=
  [[.integer 2, .text "B", .text "warrior"], [.integer 5, .text "A", .text "warrior"],
    [.integer 3, .text "a", .text "mage"], [.integer 7, .text "b", .text "mage"],
    [.integer 1, .text "A", .text "Mage"]]

/-- Those of fewer games, without the warriors of one species. -/
def furtherSpeciesAnswer : List Row :=
  [[.integer 4, .text "B", .text "MAGE"], [.integer 2, .text "A", .text "mage"],
    [.integer 1, .text "b", .text "Warrior"]]

/-- A driver that counts eighteen games each time, and answers with these species in turn. -/
def speciesDriver : Driver where
  count _ _ := .ok 18
  rows before _ _ _ :=
    if before.any Call.isRows then .ok furtherSpeciesAnswer else .ok speciesAnswer

/-- Over the built-in catalog, the report on two queries with a filter nests the rows kept of these
answers. -/
theorem species_report_nested : ∃ g report calls,
    QueryGroup.parse .builtin .game "*" ["s=race,cls", "num.n>=1", "/", "xl>5"] = .ok g ∧
      g.primary.groupFields.length = 2 ∧
      (askReport speciesDriver g).run [] = (.ok (some report), calls) ∧
      ∃ counts answers percent childPercent buckets,
        CountsAre speciesDriver [] g.queries counts ∧
        GroupsAre speciesDriver ([] ++ g.queries.map fun q => .count q.selectCount) g.queries
          answers ∧
        report.body = .nested percent childPercent buckets ∧
        ExactNesting g.queries.length (keptRows g.filters (mergedRows 2 answers)) buckets := by
  have hgroup : (QueryGroup.parse .builtin .game "*"
      ["s=race,cls", "num.n>=1", "/", "xl>5"]).toOption.map (fun g =>
        (g.primary.groupFields.length,
          ((askReport speciesDriver g).run []).1.toOption.map Option.isSome)) =
      some (2, some true) := by decide +kernel
  obtain ⟨g, hparse, hboth⟩ := exists_ok_of_map hgroup
  obtain ⟨hfields, hsome⟩ := Prod.mk.inj hboth
  obtain ⟨found, hfound, hreport⟩ := exists_ok_of_map hsome
  obtain ⟨report, rfl⟩ := Option.isSome_iff_exists.mp hreport
  have hrun : (askReport speciesDriver g).run [] =
      (.ok (some report), ((askReport speciesDriver g).run []).2) := Prod.ext hfound rfl
  exact ⟨g, report, _, hparse, hfields, hrun, nested_report_exact hfields hrun⟩

end GameLog
