import GameLog.Proofs.Query.Command
import GameLog.Proofs.Query.Shape
import GameLog.Proofs.Report.Nesting

/-!
# Slots of report rows

The counts of a report row and the values of each of its extra columns have one slot for each query.
They are made longer one by one while answers are merged, and are copied when rows are brought
together; in a report they have the same width everywhere. Sorts and filters name their slots when the
command is read, before any row is there. Where the answers are as wide as what was selected, they find
them in every row.

Main statements:
* `hasSlots_reportBody`: rows that have their slots keep them in the body of a report;
* `reads_inRange`: sorts and filters name the count or an extra column of the group;
* `report_slots_exist`: the slots of a report are there, and those that are named are among them.
-/

namespace GameLog

open ReportRow

/-! ## Slots that are there -/

/-- **Counts and extra columns have so many slots.** -/
structure HasSlots (width : Nat) (counts : List Int) (extras : List (List Cell)) : Prop where
  counts : counts.length = width
  extras : ∀ values ∈ extras, values.length = width

namespace ReportBody

/-- The rows that others are brought together under. -/
def buckets : ReportBody → List Bucket
  | flat _ _ => []
  | nested _ _ buckets => buckets

/-- The values of all rows, at both levels. -/
def rowValues (body : ReportBody) : List RowValues :=
  body.leaves.map ReportRow.values ++ body.buckets.map Bucket.values

/-- **The rows of a report have so many slots**, at both levels. -/
structure HasSlots (width : Nat) (body : ReportBody) : Prop where
  leaves : ∀ r ∈ body.leaves, GameLog.HasSlots width r.counts r.extras
  buckets : ∀ b ∈ body.buckets, GameLog.HasSlots width b.counts b.extras

end ReportBody

namespace SortField

/-- The value of a slot of a row, if each slot that it is made of is there. -/
def read? (f : SortField) (row : RowValues) : Option SortValue :=
  match slots f.target row with
  | [value] => some value
  | values =>
    match f.part with
    | .denominator => values[0]?
    | .numerator => values[1]?
    | .ratio => do
      let den ← values[0]?
      let num ← values[1]?
      return .number (ratio den.asNumber num.asNumber)

theorem read?_eq_value {f : SortField} {row : RowValues} (h : slots f.target row ≠ []) :
    f.read? row = some (f.value row) := by
  unfold read? value
  match slots f.target row, h with
  | [value], _ => rfl
  | den :: num :: rest, _ => cases f.part <;> rfl

end SortField

/-! ## Rows as they are merged -/

/-- A merged row comes from a row of the first answer, and has its slots, one for each answer. -/
theorem hasSlots_mergedRows {groups : Nat} {first : List Row} {rest : List (List Row)}
    {r : ReportRow} (hr : r ∈ mergedRows groups (first :: rest)) :
    HasSlots (first :: rest).length r.counts r.extras ∧
      ∃ row ∈ first, r.extras.length = (ofRow groups row).extras.length := by
  cases rest with
  | nil =>
    obtain ⟨row, hrow, rfl⟩ := List.mem_map.mp hr
    refine ⟨⟨rfl, fun values hvalues => ?_⟩, row, hrow, rfl⟩
    obtain ⟨cell, -, rfl⟩ := List.mem_map.mp hvalues
    rfl
  | cons second rest =>
    rw [mergedRows_eq] at hr
    obtain ⟨seed, hseed, rfl⟩ := List.mem_map.mp hr
    have hmem : seed ∈ first :=
      (List.mem_filter.mp (List.mem_of_mem_head? (head?_keyRows_of_mem_seedRows hseed))).1
    refine ⟨⟨List.length_map _, fun values hvalues => ?_⟩, seed, hmem, ?_⟩
    · obtain ⟨slot, -, rfl⟩ := List.mem_mapIdx.mp hvalues
      exact List.length_map _
    · simp only [fullRow, ofRow, List.length_mapIdx, List.length_map]

/-! ## Rows brought together -/

/-- The extra columns of rows brought together are those of one of them. -/
theorem extras_nestRows {sorts : List SortCondition} {rows : List ReportRow} {b : Bucket}
    (hb : b ∈ nestRows sorts rows) : ∃ r ∈ rows, b.extras = r.extras := by
  obtain ⟨entry, -, hof⟩ := List.mem_filterMap.mp ((perm_sortRows _ _ _ _).mem_iff.mp hb)
  cases hrows : entry.2 with
  | nil =>
    rw [hrows] at hof
    cases hof
  | cons first rest =>
    have hunder := Bucket.children_ofRows hof
    rw [hrows] at hof hunder
    refine ⟨first, (children_nestRows sorts rows).mem_iff.mp (List.mem_flatMap.mpr ⟨b, hb, ?_⟩), ?_⟩
    · exact hunder.mem_iff.mpr (by simp)
    · rw [← Option.some.inj hof]

/-- **Rows that have their slots keep them in the body of a report**, and the rows that they are
brought together under have them too. -/
theorem hasSlots_reportBody {width : Nat} {rows : List ReportRow}
    (hrows : ∀ r ∈ rows, HasSlots width r.counts r.extras) (fields : List GroupField)
    (sorts : List SortCondition) : (reportBody fields sorts rows).HasSlots width := by
  have hnested := exactNesting_nestRows (fun r hr => (hrows r hr).counts) sorts
  constructor
  · exact fun r hr => hrows r ((leaves_reportBody fields sorts rows).mem_iff.mp hr)
  · unfold reportBody
    split
    · intro b hb
      obtain ⟨r, hr, hextras⟩ := extras_nestRows hb
      constructor
      · rw [hnested.counts b hb, List.length_map, List.length_range]
      · rw [hextras]
        exact (hrows r hr).extras
    · exact fun b hb => absurd hb List.not_mem_nil

theorem extras_buckets_reportBody {fields : List GroupField} {sorts : List SortCondition}
    {rows : List ReportRow} {b : Bucket} (hb : b ∈ (reportBody fields sorts rows).buckets) :
    ∃ r ∈ rows, b.extras = r.extras := by
  unfold reportBody at hb
  split at hb
  · exact extras_nestRows hb
  · cases hb

/-! ## Slots that are named -/

/-- **A target is in range** of so many extra columns. -/
def SortTarget.InRange (columns : Nat) : SortTarget → Prop
  | key => True
  | count => True
  | extra index => index < columns

theorem SortTarget.InRange.mono {columns columns' : Nat} (h : columns ≤ columns') :
    {target : SortTarget} → target.InRange columns → target.InRange columns'
  | key, _ => trivial
  | count, _ => trivial
  | extra _, hindex => Nat.lt_of_lt_of_le hindex h

/-- Slots in range are there, in a row that has some. -/
theorem slots_ne_nil {width : Nat} (hwidth : 0 < width) {key : Option Cell} {counts : List Int}
    {extras : List (List Cell)} (h : HasSlots width counts extras) :
    {target : SortTarget} → target.InRange extras.length →
      SortField.slots target (valuesOf key counts extras) ≠ []
  | .key, _ => List.cons_ne_nil _ _
  | .count, _ => by
    refine List.ne_nil_of_length_pos ?_
    rw [SortField.slots, valuesOf, List.length_map, h.counts]
    exact hwidth
  | .extra index, hindex => by
    have hlt : index < extras.length := hindex
    refine List.ne_nil_of_length_pos ?_
    simp only [SortField.slots, valuesOf, List.getElem?_map, List.getElem?_eq_getElem hlt,
      Option.map_some, Option.getD_some, List.length_map]
    rw [h.extras _ (List.getElem_mem hlt)]
    exact hwidth

theorem target?_inRange {extra : ExtraList} {word : String} {target : SortTarget}
    (h : SortField.target? extra word = some target) : target.InRange extra.fields.length := by
  unfold SortField.target? at h
  split at h
  · obtain rfl := Option.some.inj h
    trivial
  · obtain ⟨index, hplace, rfl⟩ := Option.map_eq_some_iff.mp h
    exact (List.findIdx?_eq_some_iff_getElem.mp hplace).1

/-- What a word names is in range of the extra columns it is read beside. -/
theorem SortField.parse_inRange {extra : ExtraList} {raw : String} {f : SortField}
    (h : SortField.parse extra raw = .ok f) : f.target.InRange extra.fields.length := by
  unfold SortField.parse at h
  dsimp only at h
  split at h
  · obtain rfl := Except.ok.inj h
    trivial
  · split at h
    · rename_i target htarget
      obtain rfl := Except.ok.inj h
      exact target?_inRange htarget
    · cases h

theorem parseSorts_inRange {extra : ExtraList} {clause : String} {sorts : List SortCondition}
    (h : parseSorts extra clause = .ok sorts) :
    ∀ s ∈ sorts, s.field.target.InRange extra.fields.length := by
  intro s hs
  unfold parseSorts at h
  split at h
  · split at h
    · cases h
    · obtain ⟨item, -, hitem⟩ := exists_of_mem_mapM h hs
      obtain ⟨field, hfield, hs⟩ := bind_eq_ok.mp hitem
      obtain rfl := Except.ok.inj hs
      exact SortField.parse_inRange hfield
  · cases h

theorem RowFilter.parse?_inRange {extra : ExtraList} {token : String} {f : RowFilter}
    (h : RowFilter.parse? extra token = some f) : f.field.target.InRange extra.fields.length := by
  simp only [RowFilter.parse?, Option.bind_eq_bind, Option.bind_eq_some_iff] at h
  obtain ⟨⟨left, op, right⟩, -, field, hfield, h⟩ := h
  cases hparse : SortField.parse extra (String.ofList left) with
  | error e =>
    rw [hparse] at hfield
    cases hfield
  | ok parsed =>
    rw [hparse] at hfield
    obtain rfl := Option.some.inj hfield
    split at h
    · obtain ⟨value, -, rfl⟩ := Option.map_eq_some_iff.mp h
      exact SortField.parse_inRange hparse
    · cases h

/-- The sorts and filters of a command name slots of the extra columns it asks for. -/
theorem CommandWords.ReadFrom.inRange {s : Scope} {tokens : List String} {w : CommandWords}
    (h : w.ReadFrom s tokens) :
    (∀ c ∈ w.sorts, c.field.target.InRange w.extra.fields.length) ∧
      ∀ f ∈ w.filters, f.field.target.InRange w.extra.fields.length := by
  constructor
  · intro c hc
    obtain ⟨clauses, hclauses, hflat⟩ := map_eq_ok.mp h.sorts
    rw [← hflat] at hc
    obtain ⟨conditions, hconditions, hc⟩ := List.mem_flatten.mp hc
    obtain ⟨clause, -, hparse⟩ := exists_of_mem_mapM hclauses hconditions
    exact parseSorts_inRange hparse c hc
  · intro f hf
    rw [h.filters] at hf
    obtain ⟨token, -, htoken⟩ := List.mem_filterMap.mp hf
    exact RowFilter.parse?_inRange htoken

theorem defaultSorts_inRange (extra : ExtraList) :
    ∀ c ∈ extra.defaultSorts, c.field.target.InRange extra.fields.length := by
  intro c hc
  obtain ⟨index, hindex, rfl⟩ := List.mem_mapIdx.mp hc
  dsimp only
  split
  · trivial
  · exact hindex

theorem reportSorts_inRange {extra : ExtraList} {group : Option GroupList}
    {sorts : List SortCondition}
    (h : ∀ c ∈ sorts, c.field.target.InRange extra.fields.length) :
    ∀ c ∈ reportSorts extra group sorts, c.field.target.InRange extra.fields.length := by
  unfold reportSorts
  split
  · rename_i list
    split
    · intro c hc
      obtain rfl := List.mem_singleton.mp hc
      unfold GroupList.defaultSort
      split <;> trivial
    · exact defaultSorts_inRange extra
  · exact h

/-- A command with several fragments keeps the extra columns it asks for. -/
theorem CommandWords.length_sharedExtra {w : CommandWords} {s : Scope} {extra : ExtraList}
    (h : w.sharedExtra s = .ok extra) : w.extra.fields.length ≤ extra.fields.length := by
  unfold CommandWords.sharedExtra ratioExtra at h
  split at h
  · rw [Except.ok.inj h]
  · split at h
    · rename_i hempty
      have hnil := (Bool.and_eq_true_iff.mp hempty).1
      rw [ExtraList.isEmpty, List.isEmpty_iff] at hnil
      rw [hnil]
      exact Nat.zero_le _
    · rw [Except.ok.inj h]

/-- The slots that the sorts and the filters of a group read. -/
def QueryGroup.reads (g : QueryGroup) : List SortField :=
  g.sorts.map (·.field) ++ g.filters.map (·.field)

/-- **Sorts and filters read the key, the count or an extra column of the group.** -/
theorem reads_inRange {c : Catalog} {context : Context} {defaultName : String}
    {tokens : List String} {g : QueryGroup}
    (h : QueryGroup.parse c context defaultName tokens = .ok g) :
    ∀ f ∈ g.reads, f.target.InRange g.extra.fields.length := by
  obtain ⟨words, sorts, hwords, hsorts, hextra, hfilters, hg⟩ := sorts_of_parse h
  obtain ⟨hasked, hkept⟩ := (CommandWords.readFrom hwords).inRange
  have hmore := CommandWords.length_sharedExtra hextra
  have hall : ∀ s ∈ sorts, s.field.target.InRange words.extra.fields.length := by
    unfold CommandWords.sharedSorts ratioSorts at hsorts
    split at hsorts
    · rw [← Except.ok.inj hsorts]
      exact hasked
    · split at hsorts
      · exact parseSorts_inRange hsorts
      · rw [← Except.ok.inj hsorts]
        exact hasked
  intro f hf
  rcases List.mem_append.mp hf with hf | hf
  · obtain ⟨s, hs, rfl⟩ := List.mem_map.mp hf
    rw [hg] at hs
    exact reportSorts_inRange (fun s hs => (hall s hs).mono hmore) s hs
  · obtain ⟨filter, hfilter, rfl⟩ := List.mem_map.mp hf
    rw [hfilters] at hfilter
    exact (hkept filter hfilter).mono hmore

/-! ## Reports -/

/-- Merged rows have the extra columns of the group, if the rows answered to its primary query are as
wide as what that query selects. -/
theorem length_extras_mergedRows {c : Catalog} {context : Context} {defaultName : String}
    {tokens : List String} {g : QueryGroup}
    (h : QueryGroup.parse c context defaultName tokens = .ok g) {st : Statement}
    (hst : g.primary.selectGroups = .ok st) {first : List Row} {rest : List (List Row)}
    (hwidth : ∀ row ∈ first, row.length = st.selected.length) :
    ∀ r ∈ mergedRows g.primary.groupFields.length (first :: rest),
      r.extras.length = g.extra.fields.length := by
  obtain ⟨words, -, hparsed⟩ := parse_eq_ok h
  obtain ⟨w, tree, -, hbuilt⟩ := buildQuery_eq_ok hparsed.primary
  intro r hr
  obtain ⟨-, row, hrow, hextras⟩ := hasSlots_mergedRows hr
  have hfits := fitsSlots_of_length hst (hwidth row hrow)
  rw [length_groupBy hst] at hfits
  rw [hextras, hfits.extras, hbuilt.extra]

/-- **The slots of a report are there**, whatever a driver answers: every row at both levels has a count
for each query, and so many values in each extra column. If the rows answered are as wide as what the
primary query selects, the leaves have the extra columns of the group, and each sort and filter finds
the slots that it reads, in every merged row and in every row of the report. -/
theorem report_slots_exist {d : Driver} {g : QueryGroup} {before calls : List Call}
    {report : Report} (h : (askReport d g).run before = (.ok (some report), calls)) :
    report.body.HasSlots g.queries.length ∧
      ∀ {c : Catalog} {context : Context} {defaultName : String} {tokens : List String},
        QueryGroup.parse c context defaultName tokens = .ok g →
        ∀ {st : Statement} {answers : List (List Row)}, g.primary.selectGroups = .ok st →
          GroupsAre d (before ++ g.queries.map fun q => .count q.selectCount) g.queries answers →
          (∀ answer ∈ answers, ∀ row ∈ answer, row.length = st.selected.length) →
          (∀ r ∈ report.body.leaves, r.extras.length = g.extra.fields.length) ∧
          ∀ f ∈ g.reads,
            (∀ r ∈ mergedRows g.primary.groupFields.length answers,
              f.read? r.values = some (f.value r.values)) ∧
            ∀ row ∈ report.body.rowValues, f.read? row = some (f.value row) := by
  obtain ⟨counts, answers, -, hgroups, hreport⟩ := askReport_eq_some h
  have hlength := hgroups.length_eq
  obtain ⟨first, rest, rfl⟩ : ∃ first rest, answers = first :: rest := by
    cases answers with
    | nil => cases hlength
    | cons first rest => exact ⟨first, rest, rfl⟩
  have hmerged : ∀ r ∈ mergedRows g.primary.groupFields.length (first :: rest),
      HasSlots g.queries.length r.counts r.extras := by
    intro r hr
    rw [← hlength]
    exact (hasSlots_mergedRows hr).1
  have hkept : ∀ r ∈ keptRows g.filters (mergedRows g.primary.groupFields.length (first :: rest)),
      r ∈ mergedRows g.primary.groupFields.length (first :: rest) :=
    fun r hr => (List.mem_filter.mp hr).1
  obtain ⟨hbody, -⟩ := report_eq_some hreport
  have hslots : report.body.HasSlots g.queries.length := by
    rw [hbody]
    exact hasSlots_reportBody (fun r hr => hmerged r (hkept r hr)) _ _
  refine ⟨hslots, fun hparse st answers hst hanswers hwidth => ?_⟩
  obtain rfl := hanswers.unique hgroups
  have hcolumns : ∀ r ∈ mergedRows g.primary.groupFields.length (first :: rest),
      r.extras.length = g.extra.fields.length :=
    length_extras_mergedRows hparse hst (hwidth first (by simp))
  have hleaves : ∀ r ∈ report.body.leaves,
      r ∈ mergedRows g.primary.groupFields.length (first :: rest) := by
    intro r hr
    rw [hbody] at hr
    exact hkept r ((leaves_reportBody _ _ _).mem_iff.mp hr)
  have hqueries : 0 < g.queries.length := List.length_pos_of_ne_nil g.queries_ne_nil
  refine ⟨fun r hr => hcolumns r (hleaves r hr), fun f hf => ?_⟩
  have hrange := reads_inRange hparse f hf
  have hreads : ∀ r ∈ mergedRows g.primary.groupFields.length (first :: rest),
      f.read? r.values = some (f.value r.values) := by
    intro r hr
    rw [← hcolumns r hr] at hrange
    exact SortField.read?_eq_value (slots_ne_nil hqueries (hmerged r hr) hrange)
  refine ⟨hreads, fun row hrow => ?_⟩
  rcases List.mem_append.mp hrow with hrow | hrow
  · obtain ⟨r, hr, rfl⟩ := List.mem_map.mp hrow
    exact hreads r (hleaves r hr)
  · obtain ⟨b, hb, rfl⟩ := List.mem_map.mp hrow
    have hb' := hb
    rw [hbody] at hb'
    obtain ⟨r, hr, hextras⟩ := extras_buckets_reportBody hb'
    rw [← hcolumns r (hkept r hr), ← hextras] at hrange
    exact SortField.read?_eq_value (slots_ne_nil hqueries (hslots.buckets b hb) hrange)

/-- Species and backgrounds with an average level: those of all games, none, and one of the first. -/
def gapAnswers : List (List Row) :=
  [[[.integer 5, .text "Kobold", .text "Fighter", .integer 9],
      [.integer 3, .text "Troll", .text "Fighter", .integer 7],
      [.integer 1, .text "Kobold", .text "Hunter", .integer 4]],
    [], [[.integer 2, .text "troll", .text "fighter", .integer 12]]]

/-- A driver that counts nine games each time, and answers with these rows in turn. -/
def gapDriver : Driver where
  count _ _ := .ok 9
  rows before _ _ _ := .ok ((gapAnswers[(before.filter Call.isRows).length]?).getD [])

/-- Over the built-in catalog, all slots that a command on three queries asks for are there, though the
second answer has no row and the third one only one. -/
theorem gap_report_slots_exist : ∃ g report calls st answers,
    QueryGroup.parse .builtin .game "*" ["s=race,cls", "x=avg(xl)", "o=%.avg(xl),-.", "num.n>=0",
      "/", "xl>5", "/", "xl>9"] = .ok g ∧
      (askReport gapDriver g).run [] = (.ok (some report), calls) ∧
      report.body.HasSlots g.queries.length ∧ g.primary.selectGroups = .ok st ∧
      GroupsAre gapDriver ([] ++ g.queries.map fun q => .count q.selectCount) g.queries answers ∧
      (∀ answer ∈ answers, ∀ row ∈ answer, row.length = st.selected.length) ∧
      g.reads.length = 3 ∧ (∀ r ∈ report.body.leaves, r.extras.length = g.extra.fields.length) ∧
      ∀ f ∈ g.reads, ∀ row ∈ report.body.rowValues, f.read? row = some (f.value row) := by
  have hgroup : (QueryGroup.parse .builtin .game "*" ["s=race,cls", "x=avg(xl)", "o=%.avg(xl),-.",
      "num.n>=0", "/", "xl>5", "/", "xl>9"]).toOption.map (fun g =>
        (((askReport gapDriver g).run []).1.toOption.map Option.isSome,
          g.primary.selectGroups.toOption.map (·.selected.length),
          ((askGroups gapDriver g.queries).run ([] ++ g.queries.map fun q =>
            .count q.selectCount)).1.toOption.map fun answers =>
              answers.all fun answer => answer.all fun row => row.length == 4,
          g.reads.length)) = some (some true, some 4, some true, 3) := by decide +kernel
  obtain ⟨g, hparse, hall⟩ := exists_ok_of_map hgroup
  simp only [Prod.mk.injEq] at hall
  obtain ⟨hsome, hselected, hanswers, hreads⟩ := hall
  obtain ⟨report, hrun⟩ := exists_some_of_isSome hsome
  obtain ⟨st, hst, hlength⟩ := exists_ok_of_map hselected
  obtain ⟨answers, hasked, hfour⟩ := exists_ok_of_map hanswers
  have hgroups : GroupsAre gapDriver ([] ++ g.queries.map fun q => .count q.selectCount) g.queries
      answers := groupsAre_of_run (Prod.ext hasked rfl)
  have hwidth : ∀ answer ∈ answers, ∀ row ∈ answer, row.length = st.selected.length := by
    simpa [hlength] using hfour
  obtain ⟨hslots, hrest⟩ := report_slots_exist hrun
  obtain ⟨hleaves, hfinds⟩ := hrest hparse hst hgroups hwidth
  exact ⟨g, report, _, st, answers, hparse, hrun, hslots, hst, hgroups, hwidth, hreads, hleaves,
    fun f hf => (hfinds f hf).2⟩

end GameLog
