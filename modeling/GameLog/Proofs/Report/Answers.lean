import GameLog.Proofs.Asking
import GameLog.Report.Merge

/-!
# What a driver answers to the queries of a report

A report is made of the counts of its queries and of the rows of their groups. What a driver answers
may depend on all calls made before, so the answers to a list of queries are a relation along the
calls.

Main statements:
* `askCounts_run`, `askGroups_run`, `askReport_run`: a computation that asks for them returns what the
  driver answers;
* `askReport_eq_some`: every report comes from counts and rows that the driver answered;
* `report_eq_some`: what a report shows of them;
* `mem_mergedRows_of_mem_leaves`: its leaves are merged rows.
-/

namespace GameLog

/-- **A driver counts queries**: asked for each in turn behind some calls, it answers with these
counts, and none of them is zero. -/
inductive CountsAre (d : Driver) : List Call → List Query → List Int → Prop
  | nil (before : List Call) : CountsAre d before [] []
  | cons {before : List Call} {q : Query} {qs : List Query} {n : Int} {ns : List Int}
      (hcount : d.count before q.selectCount = .ok n) (hne : n ≠ 0)
      (hrest : CountsAre d (before ++ [.count q.selectCount]) qs ns) :
      CountsAre d before (q :: qs) (n :: ns)

/-- **A driver reads the groups of queries**: each query has a statement, and asked for it behind some
calls the driver answers with these rows. -/
inductive GroupsAre (d : Driver) : List Call → List Query → List (List Row) → Prop
  | nil (before : List Call) : GroupsAre d before [] []
  | cons {before : List Call} {q : Query} {qs : List Query} {st : Statement} {answer : List Row}
      {answers : List (List Row)} (hst : q.selectGroups = .ok st)
      (hrows : d.rows before st none none = .ok answer)
      (hrest : GroupsAre d (before ++ [.rows st none none]) qs answers) :
      GroupsAre d before (q :: qs) (answer :: answers)

theorem askCounts_run {d : Driver} {before : List Call} {qs : List Query} {ns : List Int}
    (h : CountsAre d before qs ns) :
    (askCounts d qs).run before =
      (.ok (some ns), before ++ qs.map fun q => .count q.selectCount) := by
  induction h with
  | nil before =>
    rw [List.map_nil, List.append_nil]
    rfl
  | cons hcount hne _ ih =>
    rw [askCounts, Asking.run_bind _ (askCount_run hcount), if_neg hne, Asking.run_bind _ ih,
      List.map_cons, List.append_assoc]
    rfl

theorem askGroups_run {d : Driver} {before : List Call} {qs : List Query}
    {answers : List (List Row)} (h : GroupsAre d before qs answers) :
    ∃ calls, (askGroups d qs).run before = (.ok answers, calls) := by
  induction h with
  | nil before => exact ⟨before, rfl⟩
  | cons hst hrows _ ih =>
    obtain ⟨calls, ih⟩ := ih
    refine ⟨calls, ?_⟩
    rw [askGroups, hst]
    refine (Asking.run_bind _ rfl).trans ?_
    rw [Asking.run_bind _ (askRows_run hrows), Asking.run_bind _ ih]
    rfl

/-- A report is made of the counts and the rows that the driver answers. -/
theorem askReport_run {d : Driver} {g : QueryGroup} {before : List Call} {counts : List Int}
    {answers : List (List Row)} (hcounts : CountsAre d before g.queries counts)
    (hgroups : GroupsAre d (before ++ g.queries.map fun q => .count q.selectCount) g.queries
      answers) :
    ∃ calls, (askReport d g).run before = (.ok (g.report counts answers), calls) := by
  obtain ⟨calls, hrows⟩ := askGroups_run hgroups
  refine ⟨calls, ?_⟩
  rw [askReport, Asking.run_bind _ (askCounts_run hcounts)]
  refine (Asking.run_bind _ hrows).trans ?_
  rfl

/-! ## Back from a result -/

theorem countsAre_of_run {d : Driver} {qs : List Query} {before after : List Call}
    {ns : List Int} (h : (askCounts d qs).run before = (.ok (some ns), after)) :
    CountsAre d before qs ns ∧ after = before ++ qs.map fun q => .count q.selectCount := by
  induction qs generalizing before ns with
  | nil =>
    cases h
    exact ⟨.nil _, by simp⟩
  | cons q qs ih =>
    rw [askCounts] at h
    obtain ⟨n, _, hasked, h⟩ := Asking.of_run_bind h
    obtain ⟨hcount, rfl⟩ := of_askCount_run hasked
    by_cases hne : n = 0
    · rw [if_pos hne] at h
      cases h
    rw [if_neg hne] at h
    obtain ⟨rest, _, hfurther, h⟩ := Asking.of_run_bind h
    cases rest with
    | none => cases h
    | some rest =>
      cases h
      obtain ⟨hrest, rfl⟩ := ih hfurther
      exact ⟨.cons hcount hne hrest, by simp⟩

theorem groupsAre_of_run {d : Driver} {qs : List Query} {before after : List Call}
    {answers : List (List Row)} (h : (askGroups d qs).run before = (.ok answers, after)) :
    GroupsAre d before qs answers := by
  induction qs generalizing before answers with
  | nil =>
    cases h
    exact .nil _
  | cons q qs ih =>
    cases hst : q.selectGroups with
    | error e =>
      rw [askGroups, hst] at h
      cases h
    | ok st =>
      rw [askGroups, hst] at h
      obtain ⟨_, _, hlifted, h⟩ := Asking.of_run_bind h
      cases hlifted
      obtain ⟨answer, _, hasked, h⟩ := Asking.of_run_bind h
      obtain ⟨hrows, rfl⟩ := of_askRows_run hasked
      obtain ⟨rest, _, hfurther, h⟩ := Asking.of_run_bind h
      cases h
      exact .cons hst hrows (ih hfurther)

/-- **Every report comes from answers of the driver**: a count for each query, none of them zero, and
then the rows of the groups of each query. -/
theorem askReport_eq_some {d : Driver} {g : QueryGroup} {before calls : List Call}
    {report : Report} (h : (askReport d g).run before = (.ok (some report), calls)) :
    ∃ counts answers, CountsAre d before g.queries counts ∧
      GroupsAre d (before ++ g.queries.map fun q => .count q.selectCount) g.queries answers ∧
      g.report counts answers = some report := by
  rw [askReport] at h
  obtain ⟨counts, _, hasked, h⟩ := Asking.of_run_bind h
  cases counts with
  | none => cases h
  | some counts =>
    obtain ⟨hcounts, rfl⟩ := countsAre_of_run hasked
    obtain ⟨answers, _, hgroups, h⟩ := Asking.of_run_bind h
    obtain ⟨hreport, -⟩ := Prod.mk.inj h
    exact ⟨counts, answers, hcounts, groupsAre_of_run hgroups, Except.ok.inj hreport⟩

theorem GroupsAre.length_eq {d : Driver} {before : List Call} {qs : List Query}
    {answers : List (List Row)} (h : GroupsAre d before qs answers) :
    answers.length = qs.length := by
  induction h with
  | nil => rfl
  | cons _ _ _ ih => rw [List.length_cons, List.length_cons, ih]

theorem GroupsAre.unique {d : Driver} {before : List Call} {qs : List Query}
    {answers answers' : List (List Row)} (h : GroupsAre d before qs answers)
    (h' : GroupsAre d before qs answers') : answers = answers' := by
  induction h generalizing answers' with
  | nil => cases h'; rfl
  | cons hst hrows _ ih =>
    cases h' with
    | cons hst' hrows' hrest' =>
      obtain rfl := Except.ok.inj (hst.symm.trans hst')
      obtain rfl := Except.ok.inj (hrows.symm.trans hrows')
      rw [ih hrest']

/-- **What a report shows and totals**, if there is one: the rows that the filters keep, and the counts
answered unless there are filters. -/
theorem report_eq_some {g : QueryGroup} {counts : List Int} {answers : List (List Row)}
    {report : Report} (h : g.report counts answers = some report) :
    report.body = reportBody g.primary.groupFields g.sorts
        (keptRows g.filters (mergedRows g.primary.groupFields.length answers)) ∧
      report.totals = if g.filters.isEmpty then counts
        else ReportRow.sumCounts g.queries.length
          (keptRows g.filters (mergedRows g.primary.groupFields.length answers)) := by
  unfold QueryGroup.report at h
  dsimp only at h
  split at h
  · cases h
  · obtain rfl := Option.some.inj h
    exact ⟨rfl, rfl⟩

/-- The leaves of a report are merged rows. -/
theorem mem_mergedRows_of_mem_leaves {d : Driver} {g : QueryGroup} {before calls : List Call}
    {report : Report} (hrun : (askReport d g).run before = (.ok (some report), calls))
    {answers : List (List Row)}
    (hgroups : GroupsAre d (before ++ g.queries.map fun q => .count q.selectCount) g.queries answers)
    {r : ReportRow} (hr : r ∈ report.body.leaves) :
    r ∈ mergedRows g.primary.groupFields.length answers := by
  obtain ⟨counts, answers', -, hgroups', hreport⟩ := askReport_eq_some hrun
  obtain rfl := hgroups.unique hgroups'
  obtain ⟨hbody, -⟩ := report_eq_some hreport
  rw [hbody, (leaves_reportBody _ _ _).mem_iff] at hr
  exact (List.mem_filter.mp hr).1

end GameLog
