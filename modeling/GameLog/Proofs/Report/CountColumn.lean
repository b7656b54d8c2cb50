import GameLog.Proofs.Query.ExtraColumns
import GameLog.Proofs.Report.Slots

/-!
# Extra columns that count rows

An extra column may count the rows of a group, as the count of a report row does. Each row of an answer
has both numbers, and they are the same. When a row is merged into the slot of its key, its count is
added to the one that is there, but the cell of the extra column stays that of the first row of the key.
So the two part where an answer has further rows of a key, which are written in other letter case.

Main statements:
* `keyExtra_of_countsItself`: the column lacks the counts of the further rows of a key, and no more;
* `count_column_agrees_iff`: it agrees with the count of a report row exactly where they sum to zero;
* `count_column_lacks_rows`: there are answers where they do not.
-/

namespace GameLog

open ReportRow

/-! ## Rows that count themselves -/

/-- **A row counts itself** in an extra column: its cell there is its count. -/
def CountsItself (groups slot : Nat) (row : Row) : Prop :=
  ∃ n : Int, row.head? = some (.integer n) ∧ (row.tail.drop groups)[slot]? = some (.integer n)

/-- The sum of the counts of the rows of a key behind the first one. -/
def furtherCount (groups : Nat) (key : String) (answer : List Row) : Int :=
  ((keyRows groups key answer).tail.map fun row => (ofRow groups row).count).sum

variable {groups slot : Nat}

theorem CountsItself.count_eq {row : Row} {n : Int} (h : row.head? = some (.integer n)) :
    (ofRow groups row).count = n := by
  rw [count, ofRow, h]
  rfl

/-- An answer without two rows of one key has no further rows. -/
theorem furtherCount_of_nodup {answer : List Row} (h : (answer.map (rowKey groups)).Nodup)
    (key : String) : furtherCount groups key answer = 0 := by
  have hkeys : ∀ k ∈ (keyRows groups key answer).map (rowKey groups), k = key := by
    intro k hk
    obtain ⟨row, hrow, rfl⟩ := List.mem_map.mp hk
    exact beq_iff_eq.mp (List.mem_filter.mp hrow).2
  have hnodup : ((keyRows groups key answer).map (rowKey groups)).Nodup :=
    h.sublist (List.filter_sublist.map _)
  rw [furtherCount]
  match hrows : keyRows groups key answer with
  | [] => rfl
  | [row] => rfl
  | row :: row' :: rows =>
    rw [hrows] at hkeys hnodup
    have hsame := (hkeys (rowKey groups row) (by simp)).trans
      (hkeys (rowKey groups row') (by simp)).symm
    simp [hsame] at hnodup

/-- **The column lacks the counts of the further rows of a key**, and no more. -/
theorem keyExtra_of_countsItself {answer : List Row}
    (h : ∀ row ∈ answer, CountsItself groups slot row) (key : String) :
    ∃ n, keyExtra groups key slot answer = .integer n ∧
      keyCount groups key answer = n + furtherCount groups key answer := by
  rw [keyExtra, keyCount, furtherCount]
  cases hrows : keyRows groups key answer with
  | nil => exact ⟨0, rfl, rfl⟩
  | cons row rows =>
    have hmem : row ∈ answer := (List.mem_filter.mp (hrows.symm ▸ List.mem_cons_self)).1
    obtain ⟨n, hcount, hcell⟩ := h row hmem
    refine ⟨n, ?_, ?_⟩
    · rw [List.head?_cons, Option.bind_some, hcell]
      rfl
    · rw [List.map_cons, List.sum_cons, CountsItself.count_eq hcount]
      rfl

/-! ## Merged rows -/

/-- The value of an extra column of a report row at a place. -/
def ReportRow.extraAt (slot place : Nat) (r : ReportRow) : Option Cell :=
  (r.extras[slot]?).bind (·[place]?)

theorem extraAt_mergedRows_single {answer : List Row}
    (h : ∀ row ∈ answer, CountsItself groups slot row) {r : ReportRow}
    (hr : r ∈ mergedRows groups [answer]) :
    ∃ n, r.counts[0]? = some n ∧ r.extraAt slot 0 = some (.integer n) := by
  obtain ⟨row, hrow, rfl⟩ := List.mem_map.mp hr
  obtain ⟨n, hcount, hcell⟩ := h row hrow
  refine ⟨n, ?_, ?_⟩
  · rw [ofRow, hcount]
    rfl
  · simp only [extraAt, ofRow, List.getElem?_map, hcell, Option.map_some, Option.bind_some]
    rfl

/-- **In a row of several answers the column lacks the further rows of its key**, at each place those of
the answer there. -/
theorem extraAt_mergedRows {first second : List Row} {rest : List (List Row)}
    (h : ∀ answer ∈ first :: second :: rest, ∀ row ∈ answer, CountsItself groups slot row)
    {r : ReportRow} (hr : r ∈ mergedRows groups (first :: second :: rest)) {place : Nat}
    {answer : List Row} (hplace : (first :: second :: rest)[place]? = some answer) :
    ∃ n, r.extraAt slot place = some (.integer n) ∧
      r.counts[place]? = some (n + furtherCount groups r.mergeKey answer) := by
  rw [mergedRows_eq] at hr
  obtain ⟨seed, hseed, rfl⟩ := List.mem_map.mp hr
  have hmem : seed ∈ first :=
    (List.mem_filter.mp (List.mem_of_mem_head? (head?_keyRows_of_mem_seedRows hseed))).1
  obtain ⟨_, -, hcell⟩ := h first (by simp) seed hmem
  obtain ⟨n, hextra, hcount⟩ :=
    keyExtra_of_countsItself (h answer (List.mem_of_getElem? hplace)) (rowKey groups seed)
  refine ⟨n, ?_, ?_⟩
  · simp only [extraAt, fullRow, List.getElem?_mapIdx, hcell, Option.map_some, Option.bind_some,
      List.getElem?_map, hplace, hextra]
  · simp only [fullRow, List.getElem?_map, hplace, Option.map_some, hcount]
    rfl

/-! ## Reports -/

/-- Every query of a command selects the number of rows for a column that counts them. -/
theorem countRows_of_parse {c : Catalog} {context : Context} {defaultName : String}
    {tokens : List String} {g : QueryGroup}
    (hparse : QueryGroup.parse c context defaultName tokens = .ok g) {field : ExtraField}
    (hfield : g.extra.fields[slot]? = some field) (hcount : field.projection = .count) {q : Query}
    (hq : q ∈ g.queries) {st : Statement} (hst : q.selectGroups = .ok st) :
    ((st.selected.tail.drop q.groupFields.length)[slot]?).map (·.expression) =
      some .countRows := by
  obtain ⟨words, -, hparsed⟩ := parse_eq_ok hparse
  have hextra : ∀ q ∈ g.queries, q.extra = g.extra :=
    forall_mem_of_forall₂ hparsed.queries fun tokens q hq => by
      obtain ⟨w, tree, -, hbuilt⟩ := buildQuery_eq_ok hq
      exact hbuilt.extra
  obtain ⟨-, hselected⟩ := selectGroups_eq_ok hst
  have hshows := (readIn_of_parse hparse field (List.mem_of_getElem? hfield)).showsSelected
  rw [ExtraField.ShowsSelected, hcount] at hshows
  have hdrop : st.selected.tail.drop q.groupFields.length = g.extra.fields.map (·.selected) := by
    rw [hselected, List.tail_cons, ← length_groupBy hst, hextra q hq]
    exact List.drop_left' (List.length_map _)
  rw [hdrop, List.getElem?_map, hfield]
  exact congrArg some hshows

/-- **A merged row agrees with its count exactly where no further rows are lost.** -/
theorem mergedRow_agrees_iff {answers : List (List Row)}
    (hself : ∀ answer ∈ answers, ∀ row ∈ answer, CountsItself groups slot row) {r : ReportRow}
    (hr : r ∈ mergedRows groups answers) {place : Nat} {answer : List Row}
    (hplace : answers[place]? = some answer) :
    ∃ n m, r.counts[place]? = some n ∧ r.extraAt slot place = some (.integer m) ∧
      (m = n ↔ answers.length = 1 ∨ furtherCount groups r.mergeKey answer = 0) := by
  match answers with
  | [] => cases hplace
  | [only] =>
    obtain ⟨n, hn, hcell⟩ := extraAt_mergedRows_single (hself only (by simp)) hr
    cases place with
    | zero => exact ⟨n, n, hn, hcell, iff_of_true rfl (.inl rfl)⟩
    | succ place => cases hplace
  | first :: second :: rest =>
    obtain ⟨n, hcell, hn⟩ := extraAt_mergedRows hself hr hplace
    have hseveral : (first :: second :: rest).length ≠ 1 := by simp
    refine ⟨_, n, hn, hcell, ?_⟩
    rw [or_iff_right hseveral]
    omega

/-- **A column that counts rows agrees with the count exactly where no further rows are lost.** Let an
extra column of a command count rows, so that every query selects their number for it, and let each row
answered count itself in its cell. At each place every leaf of a report has a count and a value in the
column; these are the same exactly if there is a single query, or the further rows of its key in the
answer at that place sum up to zero. So they are the same everywhere if no answer has two rows of one
key. -/
theorem count_column_agrees_iff {c : Catalog} {context : Context} {defaultName : String}
    {tokens : List String} {g : QueryGroup}
    (hparse : QueryGroup.parse c context defaultName tokens = .ok g) {slot : Nat}
    {field : ExtraField} (hfield : g.extra.fields[slot]? = some field)
    (hcount : field.projection = .count) {d : Driver} {before calls : List Call} {report : Report}
    (hrun : (askReport d g).run before = (.ok (some report), calls)) {answers : List (List Row)}
    (hgroups : GroupsAre d (before ++ g.queries.map fun q => .count q.selectCount) g.queries answers)
    (hself : ∀ answer ∈ answers, ∀ row ∈ answer,
      CountsItself g.primary.groupFields.length slot row) :
    (∀ q ∈ g.queries, ∀ st, q.selectGroups = .ok st →
      ((st.selected.tail.drop q.groupFields.length)[slot]?).map (·.expression) = some .countRows) ∧
    (∀ r ∈ report.body.leaves, ∀ place answer, answers[place]? = some answer →
      ∃ n m, r.counts[place]? = some n ∧ r.extraAt slot place = some (.integer m) ∧
        (m = n ↔ g.others = [] ∨
          furtherCount g.primary.groupFields.length r.mergeKey answer = 0)) ∧
    ((∀ answer ∈ answers, (answer.map (rowKey g.primary.groupFields.length)).Nodup) →
      ∀ r ∈ report.body.leaves, ∀ place < g.queries.length,
        r.extraAt slot place = (r.counts[place]?).map .integer) := by
  have hsingle : answers.length = 1 ↔ g.others = [] := by
    rw [hgroups.length_eq, QueryGroup.queries, List.length_cons, Nat.add_eq_right,
      List.length_eq_zero_iff]
  refine ⟨fun q hq st hst => countRows_of_parse hparse hfield hcount hq hst,
    fun r hr place answer hplace => ?_, fun hnodup r hr place hplace => ?_⟩
  · rw [← hsingle]
    exact mergedRow_agrees_iff hself (mem_mergedRows_of_mem_leaves hrun hgroups hr) hplace
  · have hlt : place < answers.length := by rwa [hgroups.length_eq]
    obtain ⟨n, m, hn, hm, hiff⟩ := mergedRow_agrees_iff hself
      (mem_mergedRows_of_mem_leaves hrun hgroups hr) (List.getElem?_eq_getElem hlt)
    obtain rfl := hiff.mpr (.inr (furtherCount_of_nodup (hnodup _ (List.getElem_mem hlt)) _))
    rw [hn, hm]
    rfl

/-- Gods of all games, of which one is written in two ways, with the number of games of each. -/
def countedGods : List Row :=
  [[.integer 2, .text "Trog", .integer 2], [.integer 1, .text "Xom", .integer 1],
    [.integer 3, .text "trog", .integer 3]]

/-- Gods of some of these games. -/
def furtherCountedGods : List Row := [[.integer 1, .text "TROG", .integer 1]]

/-- A driver that counts six rows each time, and answers with these gods in turn. -/
def countedGodsDriver : Driver where
  count _ _ := .ok 6
  rows before _ _ _ :=
    if before.any Call.isRows then .ok furtherCountedGods else .ok countedGods

theorem countsItself_gods : ∀ answer ∈ [countedGods, furtherCountedGods], ∀ row ∈ answer,
    CountsItself 1 0 row := by
  simp only [countedGods, furtherCountedGods, List.forall_mem_cons, List.not_mem_nil,
    false_imp_iff, implies_true, and_true]
  exact ⟨⟨⟨2, rfl, rfl⟩, ⟨1, rfl, rfl⟩, ⟨3, rfl, rfl⟩⟩, ⟨1, rfl, rfl⟩⟩

/-- The report on these gods with a column that counts rows, over the built-in catalog. -/
theorem exists_countedGods_report : ∃ g field report calls,
    QueryGroup.parse .builtin .game "*" ["s=god", "x=n", "/", "xl>5"] = .ok g ∧
      g.extra.fields[0]? = some field ∧ field.projection = .count ∧
      (askReport countedGodsDriver g).run [] = (.ok (some report), calls) ∧
      GroupsAre countedGodsDriver ([] ++ g.queries.map fun q => .count q.selectCount) g.queries
        [countedGods, furtherCountedGods] ∧
      g.primary.groupFields.length = 1 ∧ g.filters = [] := by
  have hgroup : (QueryGroup.parse .builtin .game "*" ["s=god", "x=n", "/", "xl>5"]).toOption.map
      (fun g => ((g.extra.fields[0]?).map (·.projection),
        ((askReport countedGodsDriver g).run []).1.toOption.map Option.isSome,
        ((askGroups countedGodsDriver g.queries).run ([] ++ g.queries.map fun q =>
          .count q.selectCount)).1.toOption.map fun answers =>
            decide (answers = [countedGods, furtherCountedGods]),
        g.primary.groupFields.length, g.filters.isEmpty)) =
      some (some .count, some true, some true, 1, true) := by
    decide +kernel
  obtain ⟨g, hparse, hall⟩ := exists_ok_of_map hgroup
  simp only [Prod.mk.injEq] at hall
  obtain ⟨hfield, hsome, hanswers, hlength, hfilters⟩ := hall
  obtain ⟨field, hfield, hcount⟩ := Option.map_eq_some_iff.mp hfield
  obtain ⟨report, hrun⟩ := exists_some_of_isSome hsome
  obtain ⟨answers, hasked, hsame⟩ := exists_ok_of_map hanswers
  obtain rfl := of_decide_eq_true hsame
  exact ⟨g, field, report, _, hparse, hfield, hcount, hrun,
    groupsAre_of_run (Prod.ext hasked rfl), hlength, List.isEmpty_iff.mp hfilters⟩

/-- On these gods the column agrees with the count exactly where no further row of a god counts. -/
theorem counted_gods_agree_iff : ∃ g field report calls,
    QueryGroup.parse .builtin .game "*" ["s=god", "x=n", "/", "xl>5"] = .ok g ∧
      g.extra.fields[0]? = some field ∧ field.projection = .count ∧
      (askReport countedGodsDriver g).run [] = (.ok (some report), calls) ∧
      GroupsAre countedGodsDriver ([] ++ g.queries.map fun q => .count q.selectCount) g.queries
        [countedGods, furtherCountedGods] ∧
      (∀ answer ∈ [countedGods, furtherCountedGods], ∀ row ∈ answer,
        CountsItself g.primary.groupFields.length 0 row) ∧
      ∀ r ∈ report.body.leaves, ∀ place answer,
        [countedGods, furtherCountedGods][place]? = some answer →
        ∃ n m, r.counts[place]? = some n ∧ r.extraAt 0 place = some (.integer m) ∧
          (m = n ↔ g.others = [] ∨
            furtherCount g.primary.groupFields.length r.mergeKey answer = 0) := by
  obtain ⟨g, field, report, calls, hparse, hfield, hcount, hrun, hgroups, hlength, -⟩ :=
    exists_countedGods_report
  have hself := countsItself_gods
  rw [← hlength] at hself
  obtain ⟨-, hplaces, -⟩ := count_column_agrees_iff hparse hfield hcount hrun hgroups hself
  exact ⟨g, field, report, calls, hparse, hfield, hcount, hrun, hgroups, hself, hplaces⟩

/-- **There are answers where the column lacks rows**: five games of one god, of which it shows two. -/
theorem count_column_lacks_rows : ∃ g field report calls,
    QueryGroup.parse .builtin .game "*" ["s=god", "x=n", "/", "xl>5"] = .ok g ∧
      g.extra.fields[0]? = some field ∧ field.projection = .count ∧
      (askReport countedGodsDriver g).run [] = (.ok (some report), calls) ∧
      GroupsAre countedGodsDriver ([] ++ g.queries.map fun q => .count q.selectCount) g.queries
        [countedGods, furtherCountedGods] ∧
      (∀ answer ∈ [countedGods, furtherCountedGods], ∀ row ∈ answer,
        CountsItself g.primary.groupFields.length 0 row) ∧
      ∃ r ∈ report.body.leaves, r.counts = [5, 1] ∧ r.extraAt 0 0 = some (.integer 2) := by
  obtain ⟨g, field, report, calls, hparse, hfield, hcount, hrun, hgroups, hlength, hfilters⟩ :=
    exists_countedGods_report
  have hself := countsItself_gods
  rw [← hlength] at hself
  obtain ⟨counts, answers, -, hgroups', hreport⟩ := askReport_eq_some hrun
  obtain rfl := hgroups.unique hgroups'
  obtain ⟨hbody, -⟩ := report_eq_some hreport
  have hmerged : (⟨[.text "Trog"], [5, 1], [[.integer 2, .integer 1]]⟩ : ReportRow) ∈
      mergedRows 1 [countedGods, furtherCountedGods] := by decide +kernel
  rw [hlength, hfilters] at hbody
  refine ⟨g, field, report, calls, hparse, hfield, hcount, hrun, hgroups, hself,
    ⟨[.text "Trog"], [5, 1], [[.integer 2, .integer 1]]⟩, ?_, rfl, rfl⟩
  rw [hbody, (leaves_reportBody _ _ _).mem_iff]
  exact List.mem_filter.mpr ⟨hmerged, rfl⟩

end GameLog
