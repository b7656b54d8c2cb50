import GameLog.Catalog.Builtin
import GameLog.Proofs.Asking
import GameLog.Proofs.Query.Building
import GameLog.Proofs.Query.Shape
import GameLog.SeededPick

/-!
# The place of a row is computed in 64-bit integers

The place of a row is computed from a count and an index, both of them 64-bit integers. It is computed
here once more, by steps that fail where a number is no such integer. For some pairs they do: nothing
can be taken from the least integer. They do not for a count of rows that there are and the index of a
query that was parsed, which is never negative (`index_of_parse`).

Main statements:
* `planFront?_eq`, `planScan?_eq`: the steps that may fail lead to the plan;
* `fetchRow?_run`: a fetch by them is the fetch;
* `scans_stay_in_word`: so it is for all queries of a command, and all counts and plans.
-/

namespace GameLog

open GameLog.Text

/-! ## Arithmetic that may fail -/

/-- A number that was computed, if it is a 64-bit integer. -/
def word? (n : Int) : Option Int := if inWord n then some n else none

/-- A number as an unsigned 64-bit integer, if it is one. -/
def unsigned? (n : Int) : Option Nat := if 0 ≤ n ∧ n < 2 * wordEnd then some n.toNat else none

theorem inWord_iff {n : Int} : inWord n = true ↔ -(wordEnd : Int) ≤ n ∧ n < wordEnd := by
  simp [inWord]

theorem word?_eq_some {n : Int} (h : inWord n = true) : word? n = some n := if_pos h

/-- Where the row at a place from the front is read, by steps that fail outside of 64-bit integers. -/
def planFront? (count front : Int) : Option ScanPlan := do
  let half ← word? (Int.tdiv count 2)
  let reversed : Bool := half < front
  let offset ←
    if reversed then do
      let last ← word? (count - 1)
      word? (last - front)
    else some front
  let rank ← word? (count - front)
  return ⟨front, reversed, offset, rank⟩

/-- Where the row of an index is read, by steps that fail outside of 64-bit integers. -/
def planScan? (count index : Int) : Option (Except QueryError ScanPlan) := do
  let last ← word? (count - 1)
  let front ← word? (last - index)
  if index < 0 || front < 0 || count ≤ front then return .error (.indexOutOfRange index)
  return .ok (← planFront? count front)

/-- **A plan lies within a count.** -/
structure ScanPlan.Within (plan : ScanPlan) (count : Int) : Prop where
  front_nonneg : 0 ≤ plan.front
  front_lt : plan.front < count
  offset_nonneg : 0 ≤ plan.offset
  offset_lt : plan.offset < count
  one_le_rank : 1 ≤ plan.rank
  rank_le : plan.rank ≤ count

section Plans

variable {count front index : Int}

theorem planFront_within (h0 : 0 ≤ front) (h : front < count) : (planFront count front).Within count := by
  have hoffset : 0 ≤ (planFront count front).offset ∧ (planFront count front).offset < count := by
    unfold planFront
    simp only
    split <;> omega
  have hrank : (planFront count front).rank = count - front := rfl
  constructor
  · exact h0
  · exact h
  · exact hoffset.1
  · exact hoffset.2
  · omega
  · omega

/-- **No step fails** for a place in front of the end. -/
theorem planFront?_eq (hcount : inWord count = true) (h0 : 0 ≤ front) (h : front < count) :
    planFront? count front = some (planFront count front) := by
  obtain ⟨-, hlt⟩ := inWord_iff.mp hcount
  have hhalf : Int.tdiv count 2 = count / 2 := Int.tdiv_eq_ediv_of_nonneg (by omega)
  have hword : ∀ n : Int, 0 ≤ n → n ≤ count → word? n = some n := fun n hn hle =>
    word?_eq_some (inWord_iff.mpr ⟨by omega, by omega⟩)
  unfold planFront?
  rw [hword (Int.tdiv count 2) (by omega) (by omega), hword (count - 1) (by omega) (by omega),
    hword (count - front) (by omega) (by omega)]
  by_cases hreversed : Int.tdiv count 2 < front
  · have hoffset := hword (count - 1 - front) (by omega) (by omega)
    simp [hreversed, hoffset, planFront]
  · simp [hreversed, planFront]

/-- **No step fails** for an index that is not negative and a count of rows that there are. -/
theorem planScan?_eq (hcount : inWord count = true) (hpos : 0 < count) (hindex : inWord index = true)
    (h0 : 0 ≤ index) : planScan? count index = some (planScan count index) := by
  obtain ⟨-, hlt⟩ := inWord_iff.mp hcount
  obtain ⟨-, hindexLt⟩ := inWord_iff.mp hindex
  have hlast : word? (count - 1) = some (count - 1) :=
    word?_eq_some (inWord_iff.mpr ⟨by omega, by omega⟩)
  have hfront : word? (count - 1 - index) = some (count - 1 - index) :=
    word?_eq_some (inWord_iff.mpr ⟨by omega, by omega⟩)
  unfold planScan? planScan
  rw [hlast]
  simp only [Option.bind_eq_bind, Option.bind_some, hfront]
  split
  · rfl
  · rename_i hrange
    simp only [Bool.or_eq_true, decide_eq_true_eq, not_or] at hrange
    rw [planFront?_eq hcount (by omega) (by omega)]
    rfl

end Plans

/-- Less than the least 64-bit integer is none. -/
example : planScan? (-9223372036854775808) 0 = none := by decide

/-! ## The index of a query -/

namespace Query

variable {q q' : Query}

@[simp] theorem index_fixupJoin (q : Query) : q.fixupJoin.index = q.index := by
  unfold fixupJoin
  split <;> rfl

@[simp] theorem index_checkJoins (q : Query) : q.checkJoins.index = q.index := by
  unfold checkJoins
  split
  · rfl
  · split
    · exact index_fixupJoin q
    · rfl

theorem index_addTerms (q : Query) (condition : Condition) :
    (addTerms q condition).index = q.index := by
  have hone : ∀ (q : Query) (node : Condition), (q.addCondition .and node).index = q.index :=
    fun _ _ => index_checkJoins _
  have hall : ∀ (parts : List Condition) (q : Query),
      (parts.foldl (fun q part => q.addCondition .and part) q).index = q.index := by
    intro parts
    induction parts with
    | nil => exact fun _ => rfl
    | cons part parts ih => exact fun q => (ih _).trans (hone q part)
  unfold addTerms
  split
  · exact hall _ q
  · exact hone q _

theorem index_addRowSorts {tokens : List String} (h : addRowSorts q tokens = .ok q') :
    q'.index = q.index := by
  unfold addRowSorts at h
  generalize tokens.filterMap rowSort? = sorts at h
  induction sorts generalizing q with
  | nil =>
    obtain rfl : q = q' := Except.ok.inj h
    rfl
  | cons sort sorts ih =>
    rw [List.foldlM_cons] at h
    obtain ⟨next, hsort, hrest⟩ := bind_eq_ok.mp h
    obtain ⟨column, direction, rfl⟩ := setRowSort_eq_ok hsort
    exact (ih hrest).trans (index_checkJoins _)

theorem index_addGroup {extra : ExtraList} {group : Option GroupList}
    (h : addGroup q extra group = .ok q') : q'.index = q.index := by
  unfold addGroup at h
  split at h
  · exact congrArg Query.index (Except.ok.inj h).symm
  · split at h
    · cases h
    · obtain rfl := Except.ok.inj h
      unfold setGroup
      simp only [index_checkJoins]
      split
      · exact index_fixupJoin _
      · rfl

/-- **A query has the index of its words.** -/
theorem index_of_build {c : Catalog} {context : Context} {defaultName : String} {extra : ExtraList}
    {tokens : List String} {words : QueryWords}
    (hwords : QueryWords.read c context defaultName tokens = .ok words)
    (h : buildQuery c context defaultName extra tokens = .ok q) : q.index = words.index := by
  obtain ⟨source, start, condition, sorted, grouped, hstart, -, hsorts, hgroup, rfl⟩ :=
    exists_steps_of_build hwords h
  obtain ⟨column, -, -, rfl⟩ := exists_unjoined_of_start hstart
  calc (grouped.setExtra extra).index
      = grouped.index := index_checkJoins _
    _ = sorted.index := index_addGroup hgroup
    _ = (addTerms _ condition).index := index_addRowSorts hsorts
    _ = words.index := (index_addTerms _ condition).trans (index_checkJoins _)

end Query

/-- The index among words is a 64-bit integer and not negative. -/
theorem QueryWords.index_of_read {c : Catalog} {context : Context} {defaultName : String}
    {tokens : List String} {words : QueryWords}
    (h : QueryWords.read c context defaultName tokens = .ok words) :
    0 ≤ words.index ∧ inWord words.index = true := by
  obtain ⟨clause, -, h⟩ := bind_eq_ok.mp h
  obtain ⟨group, -, h⟩ := bind_eq_ok.mp h
  obtain ⟨actor, -, h⟩ := bind_eq_ok.mp h
  simp only [takeFirst] at h
  split at h
  · obtain ⟨index, hindex, h⟩ := bind_eq_ok.mp h
    obtain rfl := Except.ok.inj h
    obtain ⟨hnonneg, hlt⟩ := inWord_readIndex hindex
    have hword : inWord index = true := inWord_iff.mpr ⟨by omega, hlt⟩
    exact ⟨hnonneg, hword⟩
  · obtain rfl := Except.ok.inj h
    exact ⟨Int.le_refl 0, rfl⟩

/-- **The index of a query that was parsed** is a 64-bit integer and not negative, whatever token was
typed. -/
theorem index_of_parse {c : Catalog} {context : Context} {defaultName : String}
    {tokens : List String} {g : QueryGroup}
    (h : QueryGroup.parse c context defaultName tokens = .ok g) :
    ∀ q ∈ g.queries, 0 ≤ q.index ∧ inWord q.index = true := by
  obtain ⟨words, -, hparsed⟩ := parse_eq_ok h
  refine forall_mem_of_forall₂ hparsed.queries fun tokens q hbuild => ?_
  obtain ⟨queryWords, hread, -⟩ := bind_eq_ok.mp hbuild
  rw [Query.index_of_build hread hbuild]
  exact QueryWords.index_of_read hread

/-! ## A fetch -/

/-- Where a query is read, by steps that fail outside of 64-bit integers. -/
def Query.plan? (q : Query) (pick : Pick) (count : Int) : Option (Except QueryError ScanPlan) :=
  if q.random then (planFront? count (pick count)).map .ok else planScan? count q.index

/-- The row that a query asks for, or `none` where a step of its arithmetic failed. -/
def fetchRow? (d : Driver) (pick : Pick) (q : Query) : Asking (Option (Option FoundRow)) := do
  let count ← d.askCount q.selectCount
  if count ≤ 0 then return some none
  let some planned := q.plan? pick count | return none
  let plan ← (planned : Except QueryError ScanPlan)
  let some offset := unsigned? plan.offset | return none
  let rows ← d.askRows (q.selectPlanned plan) (some 1) (some offset)
  return some (rows.head?.map fun row => ⟨plan.rank, count, q.rowColumns, row⟩)

/-- A driver counts in 64-bit integers. -/
def Driver.CountsInWord (d : Driver) : Prop :=
  ∀ calls st n, d.count calls st = .ok n → inWord n = true

/-- A random row is picked among the rows that there are. -/
def PicksRow (pick : Pick) : Prop := ∀ n, 0 < n → 0 ≤ pick n ∧ pick n < n

section Fetch

variable {d : Driver} {pick : Pick} {q : Query} {count : Int} {plan : ScanPlan}

theorem Query.plan?_eq (hpick : PicksRow pick) (h0 : 0 ≤ q.index) (hindex : inWord q.index = true)
    (hcount : inWord count = true) (hpos : 0 < count) :
    q.plan? pick count = some (q.plan pick count) := by
  unfold Query.plan? Query.plan
  by_cases hrandom : q.random = true
  · obtain ⟨hlow, hhigh⟩ := hpick count hpos
    rw [if_pos hrandom, if_pos hrandom, planFront?_eq hcount hlow hhigh]
    rfl
  · rw [if_neg hrandom, if_neg hrandom]
    exact planScan?_eq hcount hpos hindex h0

theorem Query.plan_within (hpick : PicksRow pick) (hpos : 0 < count)
    (h : q.plan pick count = .ok plan) : plan.Within count := by
  unfold Query.plan at h
  by_cases hrandom : q.random = true
  · rw [if_pos hrandom] at h
    obtain rfl := Except.ok.inj h
    obtain ⟨hlow, hhigh⟩ := hpick count hpos
    exact planFront_within hlow hhigh
  · rw [if_neg hrandom] at h
    obtain ⟨hlow, hhigh, rfl⟩ := planScan_eq_ok_iff.mp h
    exact planFront_within (by omega) (by omega)

theorem ScanPlan.Within.unsigned?_offset (h : plan.Within count) (hcount : inWord count = true) :
    unsigned? plan.offset = some plan.offset.toNat := by
  obtain ⟨-, hlt⟩ := inWord_iff.mp hcount
  have hoffset := h.offset_lt
  exact if_pos ⟨h.offset_nonneg, by omega⟩

/-- **A fetch whose steps may fail is the fetch**, if the index of the query is not negative. -/
theorem fetchRow?_run (hd : d.CountsInWord) (hpick : PicksRow pick) (h0 : 0 ≤ q.index)
    (hindex : inWord q.index = true) (before : List Call) :
    (fetchRow? d pick q).run before = (some <$> fetchRow d pick q).run before := by
  unfold fetchRow? fetchRow
  rw [map_bind]
  cases hasked : d.count before q.selectCount with
  | error e =>
    have hrun := askCount_run_error hasked
    rw [Asking.run_bind_error _ hrun, Asking.run_bind_error _ hrun]
  | ok count =>
    have hcount := hd before q.selectCount count hasked
    have hrun := askCount_run hasked
    rw [Asking.run_bind _ hrun, Asking.run_bind _ hrun]
    by_cases hpos : count ≤ 0
    · simp only [if_pos hpos]
      rfl
    · simp only [if_neg hpos, Query.plan?_eq hpick h0 hindex hcount (Int.not_le.mp hpos)]
      cases hplan : q.plan pick count with
      | error e => rfl
      | ok plan =>
        have hwithin := Query.plan_within hpick (Int.not_le.mp hpos) hplan
        have hplanned : (liftM (Except.ok plan : Except QueryError ScanPlan) : Asking ScanPlan).run
            (before ++ [.count q.selectCount]) = (.ok plan, before ++ [.count q.selectCount]) := rfl
        rw [map_bind, Asking.run_bind _ hplanned, Asking.run_bind _ hplanned,
          hwithin.unsigned?_offset hcount, map_bind]
        simp only [map_pure]

end Fetch

/-- **The arithmetic of a fetch stays in 64-bit integers**, for every query of a command that was
parsed: whatever index was typed, no step of it fails for any driver that counts in them, and a plan
made for a count lies within it. -/
theorem scans_stay_in_word {c : Catalog} {context : Context} {defaultName : String}
    {tokens : List String} {g : QueryGroup}
    (h : QueryGroup.parse c context defaultName tokens = .ok g) {q : Query} (hq : q ∈ g.queries)
    {pick : Pick} (hpick : PicksRow pick) :
    (∀ d : Driver, d.CountsInWord → ∀ before,
      (fetchRow? d pick q).run before = (some <$> fetchRow d pick q).run before) ∧
    ∀ count, inWord count = true → 0 < count →
      q.plan? pick count = some (q.plan pick count) ∧
      ∀ plan, q.plan pick count = .ok plan →
        plan.Within count ∧ unsigned? plan.offset = some plan.offset.toNat := by
  obtain ⟨h0, hindex⟩ := index_of_parse h q hq
  refine ⟨fun d hd => fetchRow?_run hd hpick h0 hindex, fun count hcount hpos => ?_⟩
  refine ⟨Query.plan?_eq hpick h0 hindex hcount hpos, fun plan hplan => ?_⟩
  have hwithin := Query.plan_within hpick hpos hplan
  exact ⟨hwithin, hwithin.unsigned?_offset hcount⟩

/-- A driver that counts as many rows as can be counted. -/
def fullDriver : Driver := ⟨fun _ _ => .ok 9223372036854775807, fun _ _ _ _ => .ok [[.integer 1]]⟩

/-- Over the built-in catalog, the greatest index that any row has is read within the greatest count. -/
theorem greatest_index_stays_in_word : ∃ g plan,
    QueryGroup.parse .builtin .game "*" ["+9223372036854775806"] = .ok g ∧
      (fetchRow? fullDriver (seededPick 7) g.primary).run [] =
        (some <$> fetchRow fullDriver (seededPick 7) g.primary).run [] ∧
      g.primary.plan (seededPick 7) 9223372036854775807 = .ok plan ∧ plan.front = 0 ∧
      plan.Within 9223372036854775807 := by
  have hgroup : (QueryGroup.parse .builtin .game "*" ["+9223372036854775806"]).toOption.map
      (fun g => (g.primary.plan (seededPick 7) 9223372036854775807).toOption) =
      some (some (planFront 9223372036854775807 0)) := by
    decide +kernel
  obtain ⟨g, hparse, hplanned⟩ := exists_ok_of_map hgroup
  have hplan := ok_of_toOption hplanned
  obtain ⟨hsteps, hwithin⟩ :=
    scans_stay_in_word hparse (List.mem_cons_self ..) (fun _ hpos => seededPick_range 7 hpos)
  have hcounts : fullDriver.CountsInWord := by
    rintro calls st n hn
    obtain rfl := Except.ok.inj hn
    rfl
  exact ⟨g, _, hparse, hsteps fullDriver hcounts [], hplan, rfl,
    ((hwithin _ rfl (by decide)).2 _ hplan).1⟩

end GameLog
