import GameLog.Catalog.Builtin
import GameLog.Execute
import GameLog.Proofs.Query.GroupColumns
import GameLog.Proofs.Query.Refusals
import GameLog.Proofs.Report.Answers

/-!
# The calls that answer a command

A command that is refused asks a driver nothing. One that is not refused has its calls planned: for a
report all queries are counted and then the groups of each are read, for a single row the query is
counted and then a row is read. A driver may answer anything and may fail at any call, so the calls that
are made of a plan end behind the first failure, and behind the first count of no rows.

Main statements:
* `askReport_makes`: a report makes the calls of its plan;
* `fetchRow_fetches`: a single row is counted and read;
* `execute_follows_protocol`: which calls a command makes, and what the reply is if they end early.
-/

namespace GameLog

/-! ## Plans -/

/-- How the calls of a plan end: all of them were made, none was made behind a count of no rows, or one
of them failed. -/
inductive Ending
  | complete
  | empty
  | failed (failure : Failure)
deriving DecidableEq

/-- **The calls made of a plan** behind others, and how they end. -/
inductive Driver.Makes (d : Driver) : List Call → List Call → List Call → Ending → Prop
  | done (before : List Call) : d.Makes before [] [] .complete
  | counted {before planned made : List Call} {ending : Ending} {st : Statement} {n : Int}
      (hcount : d.count before st = .ok n) (hne : n ≠ 0)
      (hrest : d.Makes (before ++ [.count st]) planned made ending) :
      d.Makes before (.count st :: planned) (.count st :: made) ending
  | none {before : List Call} (planned : List Call) {st : Statement}
      (hcount : d.count before st = .ok 0) :
      d.Makes before (.count st :: planned) [.count st] .empty
  | uncounted {before : List Call} (planned : List Call) {st : Statement} {f : Failure}
      (hcount : d.count before st = .error f) :
      d.Makes before (.count st :: planned) [.count st] (.failed f)
  | read {before planned made : List Call} {ending : Ending} {st : Statement}
      {limit offset : Option Nat} {answer : List Row}
      (hrows : d.rows before st limit offset = .ok answer)
      (hrest : d.Makes (before ++ [.rows st limit offset]) planned made ending) :
      d.Makes before (.rows st limit offset :: planned) (.rows st limit offset :: made) ending
  | unread {before : List Call} (planned : List Call) {st : Statement} {limit offset : Option Nat}
      {f : Failure} (hrows : d.rows before st limit offset = .error f) :
      d.Makes before (.rows st limit offset :: planned) [.rows st limit offset] (.failed f)

/-- What an ending gives: something if all calls were made, what stands for nothing behind a count of no
rows, and else the failure of the call with its messages. -/
inductive Ending.Gives {α : Type} (nothing : α) : Ending → Except QueryError α → Prop
  | complete (a : α) : Gives nothing .complete (.ok a)
  | empty : Gives nothing .empty (.ok nothing)
  | failed (f : Failure) : Gives nothing (.failed f) (.error (.driver f.text))

/-- The calls that count queries. -/
def countCalls (qs : List Query) : List Call := qs.map fun q => .count q.selectCount

/-- The calls that read all rows of statements. -/
def rowCalls (statements : List Statement) : List Call :=
  statements.map fun st => .rows st none none

variable {d : Driver} {before planned made : List Call} {ending : Ending}

theorem Driver.Makes.eq_planned (h : d.Makes before planned made ending)
    (hending : ending = .complete) : made = planned := by
  induction h with
  | done => rfl
  | counted _ _ _ ih => rw [ih hending]
  | read _ _ ih => rw [ih hending]
  | none => cases hending
  | uncounted => cases hending
  | unread => cases hending

theorem Driver.makes_of_countsAre {qs : List Query} {ns : List Int} (h : CountsAre d before qs ns)
    (hrest : d.Makes (before ++ countCalls qs) planned made ending) :
    d.Makes before (countCalls qs ++ planned) (countCalls qs ++ made) ending := by
  induction h with
  | nil before =>
    rw [countCalls, List.map_nil, List.append_nil] at hrest
    exact hrest
  | cons hcount hne _ ih =>
    refine .counted hcount hne (ih ?_)
    rw [List.append_assoc]
    exact hrest

/-- **Rows are read only behind the counts of all queries**, none of which is zero. -/
theorem Driver.Makes.exists_countsAre {qs : List Query}
    (h : d.Makes before (countCalls qs ++ planned) made ending)
    (hrows : made.any Call.isRows = true) : ∃ ns, CountsAre d before qs ns := by
  induction qs generalizing before made with
  | nil => exact ⟨[], .nil before⟩
  | cons q qs ih =>
    cases h with
    | counted hcount hne hrest =>
      obtain ⟨ns, hns⟩ := ih hrest hrows
      exact ⟨_ :: ns, .cons hcount hne hns⟩
    | none => cases hrows
    | uncounted => cases hrows

/-! ## Reports -/

/-- **Queries are counted**, all of them or up to the one that fails or has no rows; in the second case
nothing further is asked, whatever is planned. -/
theorem askCounts_makes (d : Driver) (qs : List Query) (before : List Call) :
    (∃ ns, CountsAre d before qs ns) ∨
      ∃ made ending answer, ending ≠ .complete ∧ ending.Gives none answer ∧
        (askCounts d qs).run before = (answer, before ++ made) ∧
        ∀ planned, d.Makes before (countCalls qs ++ planned) made ending := by
  induction qs generalizing before with
  | nil => exact .inl ⟨[], .nil before⟩
  | cons q qs ih =>
    cases hcount : d.count before q.selectCount with
    | error f =>
      refine .inr ⟨[.count q.selectCount], .failed f, _, by simp, .failed f, ?_,
        fun planned => .uncounted _ hcount⟩
      rw [askCounts, Asking.run_bind_error _ (askCount_run_error hcount)]
    | ok n =>
      by_cases hne : n = 0
      · subst hne
        refine .inr ⟨[.count q.selectCount], .empty, _, by simp, .empty, ?_,
          fun planned => .none _ hcount⟩
        rw [askCounts, Asking.run_bind _ (askCount_run hcount)]
        rfl
      · rcases ih (before ++ [.count q.selectCount]) with ⟨ns, hns⟩ | hends
        · exact .inl ⟨n :: ns, .cons hcount hne hns⟩
        · obtain ⟨made, ending, answer, hending, hgives, hrun, hmakes⟩ := hends
          refine .inr ⟨.count q.selectCount :: made, ending, answer, hending, hgives, ?_,
            fun planned => .counted hcount hne (hmakes planned)⟩
          rw [askCounts, Asking.run_bind _ (askCount_run hcount), if_neg hne]
          cases hgives with
          | complete => exact absurd rfl hending
          | empty =>
            rw [Asking.run_bind _ hrun, List.append_assoc]
            rfl
          | failed f =>
            rw [Asking.run_bind_error _ hrun, List.append_assoc]
            rfl

/-- **The groups of queries are read**, all of them or up to the one that fails. -/
theorem askGroups_makes {qs : List Query} {statements : List Statement}
    (h : List.Forall₂ (fun q st => q.selectGroups = .ok st) qs statements) (before : List Call) :
    ∃ made ending answer, ending ≠ .empty ∧ ending.Gives [] answer ∧
      (askGroups d qs).run before = (answer, before ++ made) ∧
      d.Makes before (rowCalls statements) made ending := by
  induction h generalizing before with
  | nil =>
    refine ⟨[], .complete, _, nofun, .complete [], ?_, .done before⟩
    rw [List.append_nil]
    rfl
  | @cons q st qs statements hst _ ih =>
    cases hrows : d.rows before st none none with
    | error f =>
      refine ⟨[.rows st none none], .failed f, _, nofun, .failed f, ?_, .unread _ hrows⟩
      rw [askGroups, hst]
      refine (Asking.run_bind _ rfl).trans ?_
      rw [Asking.run_bind_error _ (askRows_run_error hrows)]
    | ok rows =>
      obtain ⟨made, ending, answer, hending, hgives, hrun, hmakes⟩ :=
        ih (before ++ [.rows st none none])
      have hstep : (askGroups d (q :: qs)).run before =
          ((askGroups d qs) >>= fun rest => pure (rows :: rest)).run
            (before ++ [.rows st none none]) := by
        rw [askGroups, hst]
        refine (Asking.run_bind _ rfl).trans ?_
        rw [Asking.run_bind _ (askRows_run hrows)]
      cases hgives with
      | empty => exact absurd rfl hending
      | complete answers =>
        refine ⟨.rows st none none :: made, .complete, _, nofun, .complete (rows :: answers), ?_,
          .read hrows hmakes⟩
        rw [hstep, Asking.run_bind _ hrun, List.append_assoc]
        rfl
      | failed f =>
        refine ⟨.rows st none none :: made, .failed f, _, nofun, .failed f, ?_, .read hrows hmakes⟩
        rw [hstep, Asking.run_bind_error _ hrun, List.append_assoc]
        rfl

/-- **A report makes the calls of its plan**: it counts all queries, and then reads the groups of
each. -/
theorem askReport_makes {g : QueryGroup} {statements : List Statement}
    (h : List.Forall₂ (fun q st => q.selectGroups = .ok st) g.queries statements)
    (before : List Call) :
    ∃ made ending answer, ending.Gives none answer ∧
      (askReport d g).run before = (answer, before ++ made) ∧
      d.Makes before (countCalls g.queries ++ rowCalls statements) made ending := by
  rcases askCounts_makes d g.queries before with ⟨ns, hns⟩ | hends
  · obtain ⟨made, ending, answer, hending, hgives, hrun, hmakes⟩ :=
      askGroups_makes h (before ++ countCalls g.queries)
    have hall := Driver.makes_of_countsAre hns hmakes
    have hstep : (askReport d g).run before = ((askGroups d g.queries) >>= fun answers =>
        pure (g.report ns answers)).run (before ++ countCalls g.queries) := by
      rw [askReport, Asking.run_bind _ (askCounts_run hns)]
      rfl
    cases hgives with
    | empty => exact absurd rfl hending
    | complete answers =>
      refine ⟨_, .complete, _, .complete (g.report ns answers), ?_, hall⟩
      rw [hstep, Asking.run_bind _ hrun, List.append_assoc]
      rfl
    | failed f =>
      refine ⟨_, .failed f, _, .failed f, ?_, hall⟩
      rw [hstep, Asking.run_bind_error _ hrun, List.append_assoc]
  · obtain ⟨made, ending, answer, hending, hgives, hrun, hmakes⟩ := hends
    cases hgives with
    | complete => exact absurd rfl hending
    | empty =>
      refine ⟨made, .empty, _, .empty, ?_, hmakes _⟩
      rw [askReport, Asking.run_bind _ hrun]
      rfl
    | failed f =>
      refine ⟨made, .failed f, _, .failed f, ?_, hmakes _⟩
      rw [askReport, Asking.run_bind_error _ hrun]

/-! ## Single rows -/

/-- **A row of a query is in reach** of so many: there are some, and the row is picked at random or its
index is below the count. -/
def Query.InReach (q : Query) (n : Int) : Prop :=
  0 < n ∧ (q.random = true ∨ 0 ≤ q.index ∧ q.index < n)

/-- **The calls that fetch a row** of a query: it is counted, and one row is read if it is in reach. -/
inductive Driver.Fetches (d : Driver) (q : Query) (before : List Call) : List Call → Prop
  | counted (h : ∀ n, d.count before q.selectCount = .ok n → ¬q.InReach n) :
      d.Fetches q before [.count q.selectCount]
  | read {n : Int} {st : Statement} (offset : Nat) (hcount : d.count before q.selectCount = .ok n)
      (hreach : q.InReach n) (hst : st = q.selectRows ∨ st = q.reverse.selectRows) :
      d.Fetches q before [.count q.selectCount, .rows st (some 1) (some offset)]

theorem inReach_iff {q : Query} {pick : Pick} {n : Int} :
    q.InReach n ↔ 0 < n ∧ ∃ plan, q.plan pick n = .ok plan := by
  unfold Query.InReach Query.plan
  refine and_congr_right fun _ => ?_
  cases q.random with
  | true => simp
  | false =>
    simp only [planScan_eq_ok_iff, Bool.false_eq_true, false_or, if_false]
    exact ⟨fun h => ⟨_, h.1, h.2, rfl⟩, fun ⟨_, h⟩ => ⟨h.1, h.2.1⟩⟩

theorem not_refuses_of_plan {q : Query} {pick : Pick} {n : Int} {e : QueryError}
    (h : q.plan pick n = .error e) : ¬e.Refuses := by
  rintro ⟨-, hrange⟩
  unfold Query.plan planScan at h
  split at h
  · cases h
  · dsimp only at h
    split at h
    · exact hrange _ (Except.error.inj h).symm
    · cases h

theorem not_refuses_driver (message : String) : ¬(QueryError.driver message).Refuses := by
  rintro ⟨hinput, -⟩
  cases hinput

theorem selectPlanned_eq (q : Query) (plan : ScanPlan) :
    q.selectPlanned plan = q.selectRows ∨ q.selectPlanned plan = q.reverse.selectRows := by
  unfold Query.selectPlanned
  split
  · exact .inr rfl
  · exact .inl rfl

/-- **A single row is counted and read**; what fails then is no refusal. -/
theorem fetchRow_fetches (d : Driver) (pick : Pick) (q : Query) (before : List Call) :
    ∃ made answer, (∀ e, answer = .error e → ¬e.Refuses) ∧
      (fetchRow d pick q).run before = (answer, before ++ made) ∧ d.Fetches q before made := by
  cases hcount : d.count before q.selectCount with
  | error f =>
    refine ⟨[.count q.selectCount], .error (.driver f.text), ?_, ?_, .counted fun n hn => ?_⟩
    · rintro _ ⟨⟩
      exact not_refuses_driver _
    · rw [fetchRow, Asking.run_bind_error _ (askCount_run_error hcount)]
    · rw [hcount] at hn
      cases hn
  | ok n =>
    have hcounted := askCount_run hcount
    have hone : ∀ m, d.count before q.selectCount = .ok m → m = n :=
      fun m hm => Except.ok.inj (hm.symm.trans hcount)
    by_cases hpos : 0 < n
    · cases hplan : q.plan pick n with
      | error e =>
        refine ⟨[.count q.selectCount], .error e, ?_, ?_, .counted fun m hm hreach => ?_⟩
        · rintro _ ⟨⟩
          exact not_refuses_of_plan hplan
        · rw [fetchRow, Asking.run_bind _ hcounted, if_neg (by omega), hplan]
          rfl
        · obtain rfl := hone m hm
          obtain ⟨-, plan, hok⟩ := inReach_iff.mp hreach
          rw [hplan] at hok
          cases hok
      | ok plan =>
        have hmade : d.Fetches q before [.count q.selectCount,
            .rows (q.selectPlanned plan) (some 1) (some plan.offset.toNat)] :=
          .read _ hcount (inReach_iff.mpr ⟨hpos, plan, hplan⟩) (selectPlanned_eq q plan)
        have hstep : (fetchRow d pick q).run before =
            ((d.askRows (q.selectPlanned plan) (some 1) (some plan.offset.toNat)) >>= fun rows =>
              pure (rows.head?.map fun row => ⟨plan.rank, n, q.rowColumns, row⟩)).run
                (before ++ [.count q.selectCount]) := by
          rw [fetchRow, Asking.run_bind _ hcounted, if_neg (by omega), hplan]
          exact Asking.run_bind _ rfl
        cases hrows : d.rows (before ++ [.count q.selectCount]) (q.selectPlanned plan) (some 1)
            (some plan.offset.toNat) with
        | error f =>
          refine ⟨_, .error (.driver f.text), ?_, ?_, hmade⟩
          · rintro _ ⟨⟩
            exact not_refuses_driver _
          · rw [hstep, Asking.run_bind_error _ (askRows_run_error hrows), List.append_assoc]
            rfl
        | ok rows =>
          refine ⟨_, .ok (rows.head?.map fun row => ⟨plan.rank, n, q.rowColumns, row⟩), nofun, ?_,
            hmade⟩
          rw [hstep, Asking.run_bind _ (askRows_run hrows), List.append_assoc]
          rfl
    · refine ⟨[.count q.selectCount], .ok none, nofun, ?_, .counted fun m hm hreach => ?_⟩
      · rw [fetchRow, Asking.run_bind _ hcounted, if_pos (by omega)]
        rfl
      · obtain rfl := hone m hm
        exact hpos hreach.1

/-! ## Commands -/

theorem Ending.Gives.not_refuses {α : Type} {nothing : α} {answer : Except QueryError α}
    (h : ending.Gives nothing answer) : ∀ e, answer = .error e → ¬e.Refuses := by
  rintro e rfl
  cases h with
  | failed f => exact not_refuses_driver _

/-- The reply to aggregate queries makes the calls of their report. -/
theorem reply_makes {g : QueryGroup} {statements : List Statement} (pick : Pick)
    (haggregate : g.primary.isAggregate = true)
    (h : List.Forall₂ (fun q st => q.selectGroups = .ok st) g.queries statements)
    (before : List Call) :
    ∃ made ending reply, ending.Gives g.nothingText reply ∧
      (g.reply d pick).run before = (reply, before ++ made) ∧
      d.Makes before (countCalls g.queries ++ rowCalls statements) made ending := by
  obtain ⟨made, ending, answer, hgives, hrun, hmakes⟩ := askReport_makes (d := d) h before
  have hreply : g.reply d pick = (askReport d g >>= fun found =>
      pure ((found.map Report.text).getD g.nothingText)) := by
    rw [QueryGroup.reply, if_pos haggregate]
  cases hgives with
  | complete found =>
    refine ⟨made, .complete, _, .complete ((found.map Report.text).getD g.nothingText), ?_, hmakes⟩
    rw [hreply, Asking.run_bind _ hrun]
    rfl
  | empty =>
    refine ⟨made, .empty, _, .empty, ?_, hmakes⟩
    rw [hreply, Asking.run_bind _ hrun]
    rfl
  | failed f =>
    refine ⟨made, .failed f, _, .failed f, ?_, hmakes⟩
    rw [hreply, Asking.run_bind_error _ hrun]

/-- The reply to any other query fetches one row. -/
theorem reply_fetches {g : QueryGroup} (d : Driver) (pick : Pick)
    (haggregate : g.primary.isAggregate = false) (before : List Call) :
    ∃ made reply, (∀ e, reply = .error e → ¬e.Refuses) ∧
      (g.reply d pick).run before = (reply, before ++ made) ∧ d.Fetches g.primary before made := by
  obtain ⟨made, answer, hrefuses, hrun, hfetches⟩ := fetchRow_fetches d pick g.primary before
  have hreply : g.reply d pick = (fetchRow d pick g.primary >>= fun found =>
      pure ((found.map FoundRow.text).getD g.nothingText)) := by
    rw [QueryGroup.reply, haggregate, if_neg Bool.false_ne_true]
  cases answer with
  | error e =>
    refine ⟨made, .error e, ?_, ?_, hfetches⟩
    · rintro _ ⟨⟩
      exact hrefuses e rfl
    · rw [hreply, Asking.run_bind_error _ hrun]
  | ok found =>
    refine ⟨made, .ok ((found.map FoundRow.text).getD g.nothingText), nofun, ?_, hfetches⟩
    rw [hreply, Asking.run_bind _ hrun]
    rfl

/-- **A command follows the protocol**, whatever a driver answers and whichever of its calls fail, if the
catalog has fields for the type and the object of milestones. If it is refused, no call is made. Else its
queries are read. Aggregate queries make the calls of the plan that counts all of them and then reads the
groups of each by its own statement: to the end, up to the first count of no rows, when the reply is that
there is nothing, or up to the first call that fails, when the reply is its failure; so rows are read only
if no count is zero. A query that is not aggregate is counted, and at most one row is read. -/
theorem execute_follows_protocol {c : Catalog} {verb noun : FieldSpec}
    (hverb : c.fieldIn? .milestone verbField = some verb)
    (hnoun : c.fieldIn? .milestone nounField = some noun) (context : Context) (defaultName : String)
    (tokens : List String) (pick : Pick) (d : Driver) (before : List Call) :
    ∃ reply made, (execute d c context defaultName tokens pick).run before = (reply, before ++ made) ∧
      (∀ e, reply = .error e → e.Refuses → made = []) ∧
      ((∀ e, reply = .error e → ¬e.Refuses) →
        ∃ g, QueryGroup.parse c context defaultName tokens = .ok g ∧
          (g.primary.isAggregate = false → d.Fetches g.primary before made) ∧
          (g.primary.isAggregate = true → ∃ statements ending,
            List.Forall₂ (fun q st => q.selectGroups = .ok st) g.queries statements ∧
            d.Makes before (countCalls g.queries ++ rowCalls statements) made ending ∧
            ending.Gives g.nothingText reply ∧
            (ending = .complete → made = countCalls g.queries ++ rowCalls statements) ∧
            (made.any Call.isRows = true → ∃ ns, CountsAre d before g.queries ns))) := by
  cases hparse : QueryGroup.parse c context defaultName tokens with
  | error e =>
    refine ⟨.error e, [], ?_, fun _ _ _ => rfl, fun hnot => ?_⟩
    · rw [execute_error hparse, List.append_nil]
    · exact absurd (refusedOnly_parse c context defaultName tokens e hparse) (hnot e rfl)
  | ok g =>
    have hexecute : (execute d c context defaultName tokens pick).run before =
        (g.reply d pick).run before := by
      rw [execute, hparse]
      exact Asking.run_bind _ rfl
    rw [hexecute]
    cases haggregate : g.primary.isAggregate with
    | true =>
      obtain ⟨statements, hstatements⟩ := exists_statements hverb hnoun hparse
      obtain ⟨made, ending, reply, hgives, hrun, hmakes⟩ :=
        reply_makes pick haggregate hstatements before
      refine ⟨reply, made, hrun, fun e he hrefuses => absurd hrefuses (hgives.not_refuses e he),
        fun _ => ⟨g, rfl, fun hnot => ?_, fun _ => ?_⟩⟩
      · rw [haggregate] at hnot
        cases hnot
      · exact ⟨statements, ending, hstatements, hmakes, hgives, hmakes.eq_planned,
          hmakes.exists_countsAre⟩
    | false =>
      obtain ⟨made, reply, hrefuses, hrun, hfetches⟩ := reply_fetches d pick haggregate before
      refine ⟨reply, made, hrun, fun e he h => absurd h (hrefuses e he),
        fun _ => ⟨g, rfl, fun _ => hfetches, fun hnot => ?_⟩⟩
      rw [haggregate] at hnot
      cases hnot

/-- A driver that counts three rows for the first query it is asked for, and none for any other. -/
def fadingDriver : Driver where
  count before _ := .ok (if before.isEmpty then 3 else 0)
  rows _ _ _ _ := .error ⟨["no rows"]⟩

/-- Over the built-in catalog, a command on a milestone type counts its two queries, and reads no rows
because the second one has none. -/
theorem milestone_command_follows_protocol : ∃ g reply made statements ending,
    QueryGroup.parse .builtin .milestone "*" ["s=rune", "/", "xl>5"] = .ok g ∧
      (execute fadingDriver .builtin .milestone "*" ["s=rune", "/", "xl>5"] id).run [] =
        (reply, [] ++ made) ∧
      List.Forall₂ (fun q st => q.selectGroups = .ok st) g.queries statements ∧
      (countCalls g.queries ++ rowCalls statements).length = 4 ∧ made.length = 2 ∧
      fadingDriver.Makes [] (countCalls g.queries ++ rowCalls statements) made ending ∧
      ending.Gives g.nothingText reply := by
  have hverb : (Catalog.builtin.fieldIn? .milestone verbField).isSome = true := by decide +kernel
  have hnoun : (Catalog.builtin.fieldIn? .milestone nounField).isSome = true := by decide +kernel
  obtain ⟨verb, hverb⟩ := Option.isSome_iff_exists.mp hverb
  obtain ⟨noun, hnoun⟩ := Option.isSome_iff_exists.mp hnoun
  have hcalls : (((execute fadingDriver .builtin .milestone "*"
      ["s=rune", "/", "xl>5"] id).run []).1.toOption.map fun _ => ()) = some () ∧
      ((execute fadingDriver .builtin .milestone "*"
        ["s=rune", "/", "xl>5"] id).run []).2.length = 2 := by decide +kernel
  have hgroup : (QueryGroup.parse .builtin .milestone "*" ["s=rune", "/", "xl>5"]).toOption.map
      (fun g => (g.primary.isAggregate, g.queries.length)) = some (true, 2) := by decide +kernel
  obtain ⟨g, hparse, hboth⟩ := exists_ok_of_map hgroup
  obtain ⟨haggregate, hlength⟩ := Prod.mk.inj hboth
  obtain ⟨reply, made, hrun, -, hrest⟩ := execute_follows_protocol hverb hnoun .milestone "*"
    ["s=rune", "/", "xl>5"] id fadingDriver []
  rw [hrun] at hcalls
  obtain ⟨hreply, htwo⟩ := hcalls
  obtain ⟨text, rfl, -⟩ := exists_ok_of_map hreply
  obtain ⟨g', hparse', -, hreport⟩ := hrest nofun
  obtain rfl := Except.ok.inj (hparse'.symm.trans hparse)
  obtain ⟨statements, ending, hstatements, hmakes, hgives, -⟩ := hreport haggregate
  refine ⟨g', _, made, statements, ending, hparse, hrun, hstatements, ?_, htwo, hmakes, hgives⟩
  rw [List.length_append, countCalls, rowCalls, List.length_map, List.length_map, hlength,
    ← hstatements.length_eq, hlength]

end GameLog
