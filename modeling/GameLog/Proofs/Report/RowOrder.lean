import GameLog.Proofs.Report.Nesting
import GameLog.Proofs.Report.Sorted

/-!
# Reports on rows that come in any order

A driver reads the rows of two group fields in no order, and the report puts them in one. A value of
the first field stands in the report with its rows and the sums of their counts, which do not depend
on the order in which the rows came. Its extra columns do: they are those of the row that came first.
They are not shown, but a sort may read them.

Main statements:
* `map_bucketRows_perm`: rows in another order are brought together under the same values;
* `report_same_in_any_order`: without ties a report has the same lines, and the same text unless a
  sort reads the first rows of the values;
* `report_depends_on_row_order`: a sort by an extra column does read them.
-/

namespace GameLog

open GameLog.Text ReportRow

/-! ## Drivers that answer alike -/

/-- **Two drivers answer alike up to the order of rows.** -/
structure AlikeInAnyOrder (d d' : Driver) : Prop where
  count : ∀ before s, d'.count before s = d.count before s
  rows : ∀ before s limit offset answer, d.rows before s limit offset = .ok answer →
    ∃ answer', d'.rows before s limit offset = .ok answer' ∧ answer.Perm answer'

theorem CountsAre.alike {d d' : Driver} (hd : AlikeInAnyOrder d d') {before : List Call}
    {qs : List Query} {ns : List Int} (h : CountsAre d before qs ns) : CountsAre d' before qs ns := by
  induction h with
  | nil => exact .nil _
  | cons hcount hne _ ih => exact .cons ((hd.count _ _).trans hcount) hne ih

theorem GroupsAre.alike {d d' : Driver} (hd : AlikeInAnyOrder d d') {before : List Call}
    {qs : List Query} {answers : List (List Row)} (h : GroupsAre d before qs answers) :
    ∃ answers', GroupsAre d' before qs answers' ∧ List.Forall₂ List.Perm answers answers' := by
  induction h with
  | nil => exact ⟨[], .nil _, .nil⟩
  | cons hst hrows _ ih =>
    obtain ⟨answer', hrows', hperm⟩ := hd.rows _ _ _ _ _ hrows
    obtain ⟨answers', hrest, hperms⟩ := ih
    exact ⟨answer' :: answers', .cons hst hrows' hrest, .cons hperm hperms⟩

/-! ## Rows brought together in any order -/

section Buckets

variable {sorts : List SortCondition} {rows rows' : List ReportRow} {key : String} {b b' : Bucket}

theorem rowsUnder_perm (h : rows.Perm rows') (key : String) :
    (rowsUnder key rows).Perm (rowsUnder key rows') := h.filter _

theorem keys_bucketRows_perm (h : rows.Perm rows') :
    ((bucketRows rows).map (·.1)).Perm ((bucketRows rows').map (·.1)) := by
  have hbuckets := bucketsOf_bucketRows rows
  have hbuckets' := bucketsOf_bucketRows rows'
  refine (List.perm_ext_iff_of_nodup hbuckets.nodup hbuckets'.nodup).mpr fun key => ?_
  rw [hbuckets.keys, hbuckets'.keys]
  exact exists_congr fun r => and_congr_left fun _ => h.mem_iff

theorem filterMap_bucketRows (sorts : List SortCondition) (rows : List ReportRow) :
    (bucketRows rows).filterMap (fun entry => Bucket.ofRows sorts entry.2) =
      ((bucketRows rows).map (·.1)).filterMap fun key =>
        Bucket.ofRows sorts (rowsUnder key rows) := by
  rw [List.filterMap_map]
  refine List.filterMap_congr fun entry hentry => ?_
  rw [(bucketsOf_bucketRows rows).rows_eq entry hentry]
  rfl

theorem Bucket.ofRows_eq_none_iff : Bucket.ofRows sorts rows = none ↔ rows = [] := by
  cases rows <;> simp [Bucket.ofRows]

/-- **Rows in another order are brought together under the same values**: the same shows of them if it
does value by value. -/
theorem map_bucketRows_perm {β : Type} {view : Bucket → β} (h : rows.Perm rows')
    (hview : ∀ key b b', Bucket.ofRows sorts (rowsUnder key rows) = some b →
      Bucket.ofRows sorts (rowsUnder key rows') = some b' → view b = view b') :
    (((bucketRows rows).filterMap fun entry => Bucket.ofRows sorts entry.2).map view).Perm
      (((bucketRows rows').filterMap fun entry => Bucket.ofRows sorts entry.2).map view) := by
  have hsame : (fun key => (Bucket.ofRows sorts (rowsUnder key rows)).map view) =
      fun key => (Bucket.ofRows sorts (rowsUnder key rows')).map view := by
    funext key
    cases hb : Bucket.ofRows sorts (rowsUnder key rows) with
    | none =>
      have hnil := Bucket.ofRows_eq_none_iff.mp hb
      have hnil' := (hnil ▸ rowsUnder_perm h key).nil_eq
      rw [← hnil', Bucket.ofRows_eq_none_iff.mpr rfl]
    | some b =>
      cases hb' : Bucket.ofRows sorts (rowsUnder key rows') with
      | none =>
        have hnil' := Bucket.ofRows_eq_none_iff.mp hb'
        have hnil := (hnil' ▸ rowsUnder_perm h key).eq_nil
        rw [Bucket.ofRows_eq_none_iff.mpr hnil] at hb
        cases hb
      | some b' => rw [Option.map_some, Option.map_some, hview key b b' hb hb']
  rw [filterMap_bucketRows, filterMap_bucketRows, List.map_filterMap, List.map_filterMap, hsame]
  exact (keys_bucketRows_perm h).filterMap _

/-- What is nested is brought together from the rows of a value. -/
theorem mem_nestRows_of_ofRows (h : Bucket.ofRows sorts (rowsUnder key rows) = some b) :
    b ∈ nestRows sorts rows := by
  refine (perm_sortRows ..).mem_iff.mpr ?_
  rw [filterMap_bucketRows, List.mem_filterMap]
  refine ⟨key, ((bucketsOf_bucketRows rows).keys key).mpr ?_, h⟩
  cases hrows : rowsUnder key rows with
  | nil =>
    rw [hrows] at h
    cases h
  | cons first rest =>
    have hfirst : first ∈ rowsUnder key rows := by simp [hrows]
    obtain ⟨hmem, hkey⟩ := List.mem_filter.mp hfirst
    exact ⟨first, hmem, beq_iff_eq.mp hkey⟩

end Buckets

/-! ## What shows of rows brought together -/

/-- The text of the value of the first group field. -/
def ReportRow.firstText (r : ReportRow) : String := (r.cells.head?.map Cell.shown).getD ""

/-- The values that rows brought together are sorted by if this row came first, but for their counts. -/
def ReportRow.headValues (r : ReportRow) : RowValues := valuesOf r.cells.head? r.counts r.extras

/-- **Values of the first group field are spelled in one way**: no two differ only in letter case. -/
def SpelledAlike (rows : List ReportRow) : Prop :=
  ∀ r ∈ rows, ∀ r' ∈ rows, bucketKey r = bucketKey r' → r.firstText = r'.firstText

/-- **Sorts read no first row**: but for the counts, they read the same of each row of a value. -/
def ReadNoFirstRow (sorts : List SortCondition) (rows : List ReportRow) : Prop :=
  ∀ r ∈ rows, ∀ r' ∈ rows, bucketKey r = bucketKey r' →
    ∀ c ∈ sorts, c.field.target ≠ .count → c.field.value r.headValues = c.field.value r'.headValues

/-- No two rows of a report that stand side by side tie. -/
def ReportBody.NoTies (sorts : List SortCondition) : ReportBody → Prop
  | flat _ rows => GameLog.NoTies sorts ReportRow.values rows
  | nested _ _ buckets => GameLog.NoTies sorts Bucket.values buckets ∧
      ∀ b ∈ buckets, GameLog.NoTies sorts ReportRow.values b.children

instance (rows : List ReportRow) : Decidable (SpelledAlike rows) :=
  inferInstanceAs (Decidable (∀ r ∈ rows, ∀ r' ∈ rows, _ → _))

instance (sorts : List SortCondition) (rows : List ReportRow) :
    Decidable (ReadNoFirstRow sorts rows) :=
  inferInstanceAs (Decidable (∀ r ∈ rows, ∀ r' ∈ rows, _ → ∀ c ∈ sorts, _ → _))

instance (sorts : List SortCondition) : (body : ReportBody) → Decidable (body.NoTies sorts)
  | .flat _ rows => inferInstanceAs (Decidable (GameLog.NoTies sorts ReportRow.values rows))
  | .nested _ _ buckets => inferInstanceAs (Decidable (GameLog.NoTies sorts Bucket.values buckets ∧
      ∀ b ∈ buckets, GameLog.NoTies sorts ReportRow.values b.children))

section Shown

variable {sorts : List SortCondition} {rows rows' : List ReportRow} {key : String} {b b' : Bucket}

/-- Rows of a value stand under it in the order of the sorts, with the cell and the extra columns of
the first one. -/
theorem Bucket.exists_first (h : Bucket.ofRows sorts (rowsUnder key rows) = some b) :
    ∃ first ∈ rows, bucketKey first = key ∧ b.key = first.cells.head? ∧ b.extras = first.extras ∧
      b.children = sortRows sorts ReportRow.values ReportRow.count (rowsUnder key rows) := by
  cases hrows : rowsUnder key rows with
  | nil =>
    rw [hrows] at h
    cases h
  | cons first rest =>
    rw [hrows] at h
    have hfirst : first ∈ rowsUnder key rows := by simp [hrows]
    obtain ⟨hmem, hkey⟩ := List.mem_filter.mp hfirst
    obtain rfl := Option.some.inj h
    exact ⟨first, hmem, beq_iff_eq.mp hkey, rfl, rfl, rfl⟩

theorem Bucket.text_congr (hkey : (b.key.map Cell.shown).getD "" = (b'.key.map Cell.shown).getD "")
    (hcounts : b.counts = b'.counts) (hchildren : b.children = b'.children) (share childShare : Bool)
    (labels : List String) (whole : Int) :
    b.text share childShare labels whole = b'.text share childShare labels whole := by
  simp only [Bucket.text, countedKey, Bucket.count, hkey, hcounts, hchildren]

theorem SortField.value_congr {f : SortField} {v v' : RowValues}
    (h : slots f.target v = slots f.target v') : f.value v = f.value v' := by
  simp only [SortField.value, h]

theorem Bucket.value_values {first : ReportRow} (hkey : b.key = first.cells.head?)
    (hextras : b.extras = first.extras) {f : SortField} (hf : f.target ≠ .count) :
    f.value b.values = f.value first.headValues := by
  refine SortField.value_congr ?_
  unfold SortField.slots
  split
  · simp only [Bucket.values, ReportRow.headValues, valuesOf, hkey]
  · rename_i hcount
    exact absurd hcount hf
  · simp only [Bucket.values, ReportRow.headValues, valuesOf, hextras]

/-- **The rows of a value and their counts do not depend on the order in which rows came.** -/
theorem Bucket.alike {width : Nat} (hperm : rows.Perm rows')
    (hwidth : ∀ r ∈ rows, r.counts.length = width)
    (hb : Bucket.ofRows sorts (rowsUnder key rows) = some b)
    (hb' : Bucket.ofRows sorts (rowsUnder key rows') = some b')
    (hties : NoTies sorts ReportRow.values b.children)
    (hties' : NoTies sorts ReportRow.values b'.children) :
    b.children = b'.children ∧ b.counts = b'.counts := by
  obtain ⟨-, -, -, -, -, hsorted⟩ := Bucket.exists_first hb
  obtain ⟨-, -, -, -, -, hsorted'⟩ := Bucket.exists_first hb'
  have hchildren : b.children = b'.children := by
    rw [hsorted] at hties ⊢
    rw [hsorted'] at hties' ⊢
    exact sortRows_eq (rowsUnder_perm hperm key) hties hties'
  have hwidth' : ∀ r ∈ rows', r.counts.length = width := fun r hr =>
    hwidth r (hperm.mem_iff.mpr hr)
  rw [(exactNesting_nestRows hwidth sorts).counts b (mem_nestRows_of_ofRows hb),
    (exactNesting_nestRows hwidth' sorts).counts b' (mem_nestRows_of_ofRows hb'), hchildren]
  exact ⟨rfl, rfl⟩

/-- **Rows that come in another order are nested alike**: without ties the lines are the same ones, and
in the same order unless a sort reads the first rows of the values. -/
theorem nestRows_in_any_order {width : Nat} (hperm : rows.Perm rows')
    (hwidth : ∀ r ∈ rows, r.counts.length = width) (hspelled : SpelledAlike rows)
    (hties : NoTies sorts Bucket.values (nestRows sorts rows) ∧
      ∀ b ∈ nestRows sorts rows, NoTies sorts ReportRow.values b.children)
    (hties' : NoTies sorts Bucket.values (nestRows sorts rows') ∧
      ∀ b ∈ nestRows sorts rows', NoTies sorts ReportRow.values b.children)
    (share childShare : Bool) (labels : List String) (whole : Int) :
    ((nestRows sorts rows).map (Bucket.text share childShare labels whole)).Perm
        ((nestRows sorts rows').map (Bucket.text share childShare labels whole)) ∧
      (ReadNoFirstRow sorts rows →
        (nestRows sorts rows).map (Bucket.text share childShare labels whole) =
          (nestRows sorts rows').map (Bucket.text share childShare labels whole)) := by
  have htext : ∀ key b b', Bucket.ofRows sorts (rowsUnder key rows) = some b →
      Bucket.ofRows sorts (rowsUnder key rows') = some b' →
      b.text share childShare labels whole = b'.text share childShare labels whole := by
    intro key b b' hb hb'
    obtain ⟨first, hmem, hkey, hcell, -⟩ := Bucket.exists_first hb
    obtain ⟨first', hmem', hkey', hcell', -⟩ := Bucket.exists_first hb'
    obtain ⟨hchildren, hcounts⟩ := Bucket.alike hperm hwidth hb hb'
      (hties.2 b (mem_nestRows_of_ofRows hb)) (hties'.2 b' (mem_nestRows_of_ofRows hb'))
    refine Bucket.text_congr ?_ hcounts hchildren share childShare labels whole
    rw [hcell, hcell']
    exact hspelled first hmem first' (hperm.mem_iff.mpr hmem') (hkey.trans hkey'.symm)
  constructor
  · exact ((perm_sortRows ..).map _).trans
      ((map_bucketRows_perm hperm htext).trans ((perm_sortRows ..).map _).symm)
  · intro hfree
    let view (b : Bucket) : String × List SortValue :=
      (b.text share childShare labels whole, sorts.map fun c => c.field.value b.values)
    have hview : ∀ key b b', Bucket.ofRows sorts (rowsUnder key rows) = some b →
        Bucket.ofRows sorts (rowsUnder key rows') = some b' → view b = view b' := by
      intro key b b' hb hb'
      refine Prod.ext (htext key b b' hb hb') (List.map_congr_left fun c hc => ?_)
      obtain ⟨first, hmem, hkey, hcell, hextras, -⟩ := Bucket.exists_first hb
      obtain ⟨first', hmem', hkey', hcell', hextras', -⟩ := Bucket.exists_first hb'
      obtain ⟨-, hcounts⟩ := Bucket.alike hperm hwidth hb hb'
        (hties.2 b (mem_nestRows_of_ofRows hb)) (hties'.2 b' (mem_nestRows_of_ofRows hb'))
      by_cases hcount : c.field.target = .count
      · refine SortField.value_congr ?_
        rw [hcount]
        simp only [SortField.slots, Bucket.values, valuesOf, hcounts]
      · rw [Bucket.value_values hcell hextras hcount, Bucket.value_values hcell' hextras' hcount]
        exact hfree first hmem first' (hperm.mem_iff.mpr hmem') (hkey.trans hkey'.symm) c hc hcount
    have hsame := map_sortRows_eq view (map_bucketRows_perm hperm hview)
      (fun a b hab => List.map_inj_left.mp (congrArg Prod.snd hab)) hties.1 hties'.1
    have htexts := congrArg (List.map Prod.fst) hsame
    rwa [List.map_map, List.map_map] at htexts

end Shown

/-! ## Reports -/

theorem SpelledAlike.perm {rows rows' : List ReportRow} (h : SpelledAlike rows)
    (hperm : rows.Perm rows') : SpelledAlike rows' := fun r hr r' hr' =>
  h r (hperm.mem_iff.mpr hr) r' (hperm.mem_iff.mpr hr')

theorem ReadNoFirstRow.perm {sorts : List SortCondition} {rows rows' : List ReportRow}
    (h : ReadNoFirstRow sorts rows) (hperm : rows.Perm rows') : ReadNoFirstRow sorts rows' :=
  fun r hr r' hr' => h r (hperm.mem_iff.mpr hr) r' (hperm.mem_iff.mpr hr')

/-- The report on an answer of two group fields. -/
theorem report_nested {g : QueryGroup} {first second : GroupField} {counts : List Int}
    {answer : List Row} {rows : List ReportRow}
    (hfields : g.primary.groupFields = [first, second])
    (hrows : keptRows g.filters (answer.map (ofRow 2)) = rows) :
    g.report counts [answer] =
      if !g.filters.isEmpty && rows.isEmpty then none
      else some {
        totals := if g.filters.isEmpty then counts else sumCounts g.queries.length rows
        entity := g.entity
        description := g.description
        ratio := g.isRatio
        labels := g.extra.fields.map (·.label)
        body := .nested first.percent second.percent (nestRows g.sorts rows) } := by
  subst hrows
  unfold QueryGroup.report
  rw [hfields]
  rfl

/-- **The order in which rows come does not show in a report** on two group fields of one query,
without ties and with values spelled alike: another driver that answers with the same rows in any
order makes a report with the same totals and the same lines, and with the same text unless a sort
reads the first rows of the values. -/
theorem report_same_in_any_order {d d' : Driver} (hd : AlikeInAnyOrder d d') {g : QueryGroup}
    {before calls : List Call} {report : Report} (hsingle : g.others = [])
    (hgroups : g.primary.groupFields.length = 2)
    (h : (askReport d g).run before = (.ok (some report), calls))
    (hspelled : SpelledAlike report.body.leaves) (hties : report.body.NoTies g.sorts) :
    ∃ report' calls', (askReport d' g).run before = (.ok (some report'), calls') ∧
      report'.totals = report.totals ∧
      (report'.body.NoTies g.sorts → report'.rowTexts.Perm report.rowTexts ∧
        (ReadNoFirstRow g.sorts report.body.leaves → report'.text = report.text)) := by
  obtain ⟨counts, answers, hcounts, hanswers, hreport⟩ := askReport_eq_some h
  obtain ⟨answers', hanswers', hperms⟩ := hanswers.alike hd
  obtain ⟨calls', hrun⟩ := askReport_run (hcounts.alike hd) hanswers'
  obtain ⟨first, second, hfields⟩ := List.length_eq_two.mp hgroups
  obtain ⟨answer, rfl⟩ : ∃ answer, answers = [answer] := by
    refine List.length_eq_one_iff.mp ?_
    rw [hanswers.length_eq, QueryGroup.queries, hsingle]
    rfl
  obtain ⟨answer', rest, hperm, hrest, rfl⟩ := List.forall₂_cons_left_iff.mp hperms
  obtain rfl := List.forall₂_nil_left_iff.mp hrest
  -- the rows kept are the same ones
  have hrows : (keptRows g.filters (answer.map (ofRow 2))).Perm
      (keptRows g.filters (answer'.map (ofRow 2))) := (hperm.map _).filter _
  rw [report_nested hfields rfl, ← hrows.isEmpty_eq] at hrun
  rw [report_nested hfields rfl] at hreport
  generalize hkept : keptRows g.filters (answer.map (ofRow 2)) = rows at hrows hreport hrun
  generalize keptRows g.filters (answer'.map (ofRow 2)) = rows' at hrows hrun
  have hwidth : ∀ r ∈ rows, r.counts.length = 1 := by
    intro r hr
    have hmem : r ∈ mergedRows 2 [answer] := (List.mem_filter.mp (hkept ▸ hr)).1
    exact length_counts_mergedRows (by simp) r hmem
  split at hreport
  · cases hreport
  · rename_i hsome
    obtain rfl := Option.some.inj hreport
    rw [if_neg hsome] at hrun
    have htotals : (if g.filters.isEmpty then counts else sumCounts g.queries.length rows') =
        if g.filters.isEmpty then counts else sumCounts g.queries.length rows := by
      rw [sumCounts_perm _ hrows]
    rw [htotals] at hrun
    refine ⟨_, calls', hrun, rfl, fun hties' => ?_⟩
    have hleaves := children_nestRows g.sorts rows
    obtain ⟨hlines, htexts⟩ := nestRows_in_any_order hrows hwidth (hspelled.perm hleaves) hties hties'
      (first.percent && !g.isRatio) (second.percent && !g.isRatio) (g.extra.fields.map (·.label))
      ((if g.filters.isEmpty then counts else sumCounts g.queries.length rows).head?.getD 0)
    refine ⟨hlines.symm, fun hfree => ?_⟩
    unfold Report.text Report.rowTexts
    exact congrArg (_ ++ joinWith ", " ·) (htexts (hfree.perm hleaves)).symm

/-! ## Species by their highest level -/

/-- A driver that counts so many rows, and answers with these groups. -/
def groupsDriver (n : Int) (answer : List Row) : Driver where
  count _ _ := .ok n
  rows _ _ _ _ := .ok answer

theorem alikeInAnyOrder_groupsDriver {answer answer' : List Row} (n : Int)
    (h : answer.Perm answer') :
    AlikeInAnyOrder (groupsDriver n answer) (groupsDriver n answer') where
  count _ _ := rfl
  rows _ _ _ _ answer hanswer := by
    cases hanswer
    exact ⟨answer', rfl, h⟩

/-- The report on such an answer. -/
theorem askReport_groupsDriver {g : QueryGroup} {n : Int} (hn : n ≠ 0) (answer : List Row)
    (hsingle : g.others = []) (hst : g.primary.selectGroups.toOption.isSome = true) :
    ∃ calls, (askReport (groupsDriver n answer) g).run [] = (.ok (g.report [n] [answer]), calls) := by
  cases hstatement : g.primary.selectGroups with
  | error e =>
    rw [hstatement] at hst
    cases hst
  | ok st =>
    have hqueries : g.queries = [g.primary] := by rw [QueryGroup.queries, hsingle]
    refine askReport_run ?_ ?_
    · rw [hqueries]
      exact .cons rfl hn (.nil _)
    · rw [hqueries]
      exact .cons hstatement rfl (.nil _)

/-- Rows of two values nested. -/
theorem nestRows_three {sorts : List SortCondition} {a b c : ReportRow} {buckets : List Bucket}
    (key key' : String) (children : List ReportRow)
    (hrows : bucketRows [a, b, c] = [(key, [a, b]), (key', [c])]) (hperm : children.Perm [a, b])
    (hchildren : children.Pairwise fun a b => compareRows sorts a.values b.values = .lt)
    (hbuckets : buckets.Perm
      [⟨a.cells.head?, sumCounts a.counts.length children, a.extras, children⟩,
        ⟨c.cells.head?, sumCounts c.counts.length [c], c.extras, [c]⟩])
    (hstrict : buckets.Pairwise fun b b' => compareRows sorts b.values b'.values = .lt) :
    nestRows sorts [a, b, c] = buckets := by
  have hone : sortRows sorts ReportRow.values ReportRow.count [c] = [c] :=
    sortRows_eq_of_strict (.refl _) (List.pairwise_singleton ..)
  rw [nestRows, hrows]
  simp only [List.filterMap_cons, List.filterMap_nil, Bucket.ofRows,
    sortRows_eq_of_strict hperm hchildren, hone]
  exact sortRows_eq_of_strict hbuckets hstrict

/-- Fighters of a species, with their highest level. -/
def koboldFighters : Row := [.integer 1, .text "Kobold", .text "Fighter", .integer 10]

/-- Hunters of the same species. -/
def koboldHunters : Row := [.integer 2, .text "Kobold", .text "Hunter", .integer 27]

/-- Fighters of another species. -/
def trollFighters : Row := [.integer 4, .text "Troll", .text "Fighter", .integer 20]

/-- The first species with the level that comes first. -/
def kobolds (level : Int) : Bucket :=
  ⟨some (.text "Kobold"), [3], [[.integer level]],
    [ofRow 2 koboldHunters, ofRow 2 koboldFighters]⟩

/-- The other species. -/
def trolls : Bucket := ⟨some (.text "Troll"), [4], [[.integer 20]], [ofRow 2 trollFighters]⟩

/-- The report on nested species. -/
def levelReport (description : String) (buckets : List Bucket) : Report where
  totals := [7]
  entity := "game"
  description := description
  ratio := false
  labels := ["max(xl)"]
  body := .nested false false buckets

/-- **A query reports the highest levels of species and backgrounds** by some sorts. -/
def QueryGroup.ReportsLevels (g : QueryGroup) (description : String)
    (sorts : List SortCondition) : Prop :=
  g.others.length = 0 ∧ g.primary.groupFields.map (·.percent) = [false, false] ∧ g.filters = [] ∧
    g.sorts = sorts ∧ g.extra.fields.map (·.label) = ["max(xl)"] ∧ g.entity = "game" ∧
    g.description = description ∧ g.primary.selectGroups.toOption.isSome = true

instance (g : QueryGroup) (description : String) (sorts : List SortCondition) :
    Decidable (g.ReportsLevels description sorts) :=
  inferInstanceAs (Decidable (_ ∧ _))

section Levels

variable {g : QueryGroup} {description : String} {sorts : List SortCondition}

theorem QueryGroup.ReportsLevels.shape (h : g.ReportsLevels description sorts) :
    g.others = [] ∧ g.primary.groupFields.length = 2 := by
  obtain ⟨hothers, hfields, -⟩ := h
  refine ⟨List.length_eq_zero_iff.mp hothers, ?_⟩
  rw [← List.length_map (f := (·.percent)), hfields]
  rfl

/-- What such a query reports. -/
theorem QueryGroup.ReportsLevels.askReport (h : g.ReportsLevels description sorts)
    (answer : List Row) :
    ∃ calls, (GameLog.askReport (groupsDriver 7 answer) g).run [] =
      (.ok (some (levelReport description (nestRows sorts (answer.map (ofRow 2))))), calls) := by
  obtain ⟨hothers, hgroups⟩ := h.shape
  obtain ⟨-, hpercent, hfilters, rfl, hlabels, hentity, rfl, hst⟩ := h
  obtain ⟨calls, hrun⟩ := @askReport_groupsDriver g 7 (by decide) answer hothers hst
  obtain ⟨first, second, hfields⟩ := List.length_eq_two.mp hgroups
  have hkept : keptRows g.filters (answer.map (ofRow 2)) = answer.map (ofRow 2) := by
    rw [hfilters]
    exact List.filter_eq_self.mpr fun _ _ => rfl
  obtain ⟨hfirst, hsecond⟩ : first.percent = false ∧ second.percent = false := by
    simpa [hfields] using hpercent
  rw [report_nested hfields hkept, hfilters, hentity, hlabels, hfirst, hsecond, QueryGroup.isRatio,
    hothers] at hrun
  exact ⟨calls, hrun⟩

end Levels

/-- Over the built-in catalog, the report by counts has one text, whichever background of a species
comes first. -/
theorem counts_report_in_any_order : ∃ g report calls,
    QueryGroup.parse .builtin .game "*" ["s=race,cls", "x=max(xl)", "o=n"] = .ok g ∧
      AlikeInAnyOrder (groupsDriver 7 [koboldFighters, koboldHunters, trollFighters])
        (groupsDriver 7 [koboldHunters, koboldFighters, trollFighters]) ∧
      g.others = [] ∧ g.primary.groupFields.length = 2 ∧
      (askReport (groupsDriver 7 [koboldFighters, koboldHunters, trollFighters]) g).run [] =
        (.ok (some report), calls) ∧
      SpelledAlike report.body.leaves ∧ report.body.NoTies g.sorts ∧
      ReadNoFirstRow g.sorts report.body.leaves ∧
      ∃ report' calls',
        (askReport (groupsDriver 7 [koboldHunters, koboldFighters, trollFighters]) g).run [] =
          (.ok (some report'), calls') ∧
        report'.totals = report.totals ∧
        (report'.body.NoTies g.sorts → report'.rowTexts.Perm report.rowTexts ∧
          (ReadNoFirstRow g.sorts report.body.leaves → report'.text = report.text)) := by
  have hgroup : (QueryGroup.parse .builtin .game "*" ["s=race,cls", "x=max(xl)", "o=n"]).toOption.map
      (fun g => decide (g.ReportsLevels "* s=race,cls x=max(xl) o=n" [⟨.count, false⟩])) =
      some true := by decide +kernel
  obtain ⟨g, hparse, hreports⟩ := exists_ok_of_map hgroup
  have hreports := of_decide_eq_true hreports
  obtain ⟨hothers, hgroups⟩ := hreports.shape
  obtain ⟨calls, hrun⟩ := hreports.askReport [koboldFighters, koboldHunters, trollFighters]
  have hnested : nestRows [⟨.count, false⟩]
      ([koboldFighters, koboldHunters, trollFighters].map (ofRow 2)) = [trolls, kobolds 10] :=
    nestRows_three "kobold" "troll" [ofRow 2 koboldHunters, ofRow 2 koboldFighters]
      (by decide +kernel) (by decide +kernel) (by decide +kernel) (by decide +kernel)
      (by decide +kernel)
  rw [hnested] at hrun
  have hdrivers := alikeInAnyOrder_groupsDriver 7
    (.swap koboldHunters koboldFighters [trollFighters])
  obtain ⟨-, -, -, hsorts, -⟩ := hreports
  have hspelled : SpelledAlike (levelReport "* s=race,cls x=max(xl) o=n"
      [trolls, kobolds 10]).body.leaves := by decide +kernel
  have hties : (levelReport "* s=race,cls x=max(xl) o=n"
      [trolls, kobolds 10]).body.NoTies g.sorts := by
    rw [hsorts]
    decide +kernel
  have hfree : ReadNoFirstRow g.sorts (levelReport "* s=race,cls x=max(xl) o=n"
      [trolls, kobolds 10]).body.leaves := by
    rw [hsorts]
    decide +kernel
  exact ⟨g, _, calls, hparse, hdrivers, hothers, hgroups, hrun, hspelled, hties, hfree,
    report_same_in_any_order hdrivers hothers hgroups hrun hspelled hties⟩

/-- **A sort by an extra column makes a report depend on the order in which rows come**: over the
built-in catalog, species that are sorted by their highest level stand by that of the background which
comes first. -/
theorem report_depends_on_row_order : ∃ g report report' calls calls',
    QueryGroup.parse .builtin .game "*" ["s=race,cls", "x=max(xl)"] = .ok g ∧
      g.others = [] ∧ g.primary.groupFields.length = 2 ∧
      AlikeInAnyOrder (groupsDriver 7 [koboldFighters, koboldHunters, trollFighters])
        (groupsDriver 7 [koboldHunters, koboldFighters, trollFighters]) ∧
      (askReport (groupsDriver 7 [koboldFighters, koboldHunters, trollFighters]) g).run [] =
        (.ok (some report), calls) ∧
      (askReport (groupsDriver 7 [koboldHunters, koboldFighters, trollFighters]) g).run [] =
        (.ok (some report'), calls') ∧
      (∀ r ∈ report.body.leaves, ∀ r' ∈ report.body.leaves, ∀ c ∈ r.cells, ∀ c' ∈ r'.cells,
        lowerCase c.shown = lowerCase c'.shown → c.shown = c'.shown) ∧
      report.body.NoTies g.sorts ∧ report'.body.NoTies g.sorts ∧ report'.text ≠ report.text := by
  have hgroup : (QueryGroup.parse .builtin .game "*" ["s=race,cls", "x=max(xl)"]).toOption.map
      (fun g => decide (g.ReportsLevels "* s=race,cls x=max(xl)"
        [⟨.extra 0 "max(xl)", false⟩])) = some true := by decide +kernel
  obtain ⟨g, hparse, hreports⟩ := exists_ok_of_map hgroup
  have hreports := of_decide_eq_true hreports
  obtain ⟨hothers, hgroups⟩ := hreports.shape
  obtain ⟨calls, hrun⟩ := hreports.askReport [koboldFighters, koboldHunters, trollFighters]
  obtain ⟨calls', hrun'⟩ := hreports.askReport [koboldHunters, koboldFighters, trollFighters]
  have hnested : nestRows [⟨.extra 0 "max(xl)", false⟩]
      ([koboldFighters, koboldHunters, trollFighters].map (ofRow 2)) = [trolls, kobolds 10] :=
    nestRows_three "kobold" "troll" [ofRow 2 koboldHunters, ofRow 2 koboldFighters]
      (by decide +kernel) (by decide +kernel) (by decide +kernel) (by decide +kernel)
      (by decide +kernel)
  have hnested' : nestRows [⟨.extra 0 "max(xl)", false⟩]
      ([koboldHunters, koboldFighters, trollFighters].map (ofRow 2)) = [kobolds 27, trolls] :=
    nestRows_three "kobold" "troll" [ofRow 2 koboldHunters, ofRow 2 koboldFighters]
      (by decide +kernel) (by decide +kernel) (by decide +kernel) (by decide +kernel)
      (by decide +kernel)
  rw [hnested] at hrun
  rw [hnested'] at hrun'
  obtain ⟨-, -, -, hsorts, -⟩ := hreports
  refine ⟨g, _, _, calls, calls', hparse, hothers, hgroups,
    alikeInAnyOrder_groupsDriver 7 (.swap ..), hrun, hrun', by decide +kernel, ?_, ?_,
    by decide +kernel⟩
  · rw [hsorts]
    decide +kernel
  · rw [hsorts]
    decide +kernel

end GameLog
