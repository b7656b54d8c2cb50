import GameLog.Catalog.Builtin
import GameLog.Proofs.Query.Building
import GameLog.Query.Step

/-!
# When games are joined

A query about milestones may come to read a column of games in many ways: by its actor, its order, a
condition, an extra column or a group. Each way is looked for by a test of its own, and once games are
joined they stay so. What every step keeps (`Query.Joins`) is that the condition states the equality of
the join exactly if games are joined, and that a query without them reads no column of theirs.

Main statements:
* `Prepared.checkJoins`: looking for a join makes up for what a step added;
* `Joins.step`, `Joins.run`: every step keeps this, and so does every run;
* `joins_of_build`: so does all that a query is built from;
* `run_reads_its_tables`: the tables, the equality and the columns of a query after any steps.
-/

namespace GameLog

open GameLog.Text

/-! ## Columns of a table -/

/-- Whether a statement names a column by the short name of a table. -/
def Statement.reads (table : String) (s : Statement) : Bool := s.columns.any (Column.isOf table)

/-- What holds of the columns of all parts of a statement holds of the columns that it names. -/
theorem Statement.forall_mem_columns {st : Statement} {p : Column → Prop}
    (hselected : ∀ item ∈ st.selected, ∀ c, item.expression.column? = some c → p c)
    (hcondition : ∀ comparison ∈ st.condition.comparisons, p comparison.column)
    (htexts : ∀ text ∈ st.condition.fixedTexts, ∀ a b, readEquality? text = some (a, b) → p a ∧ p b)
    (hgroup : ∀ c ∈ st.groupBy, p c)
    (horder : ∀ term ∈ st.orderBy, ∀ c, term.key = .column c → p c) : ∀ c ∈ st.columns, p c := by
  intro c hc
  simp only [Statement.columns, List.mem_append, List.mem_filterMap, List.mem_map,
    List.mem_flatMap] at hc
  rcases hc with (((⟨item, hitem, hcolumn⟩ | ⟨comparison, hcomparison, rfl⟩) |
    ⟨⟨a, b⟩, ⟨text, htext, hread⟩, hc⟩) | hc) | ⟨term, hterm, hkey⟩
  · exact hselected item hitem c hcolumn
  · exact hcondition comparison hcomparison
  · obtain ⟨ha, hb⟩ := htexts text htext a b hread
    simp only [List.mem_cons, List.not_mem_nil, or_false] at hc
    rcases hc with rfl | rfl
    · exact ha
    · exact hb
  · exact hgroup c hc
  · cases hk : term.key with
    | named name =>
      rw [hk] at hkey
      cases hkey
    | column c' =>
      rw [hk] at hkey
      cases hkey
      exact horder term hterm c hk

theorem isOf_columnOf_milestone (spec : FieldSpec) :
    (Scope.columnOf .milestone spec).isOf Context.game.short = false := by
  simp [Scope.columnOf, Column.isOf, Column.text, startsWith, Context.short, List.isPrefixOf]

/-- An expression mentions the table of the column that it reads. -/
theorem mentions_of_isOf {table : String} {e : Expression} {c : Column} (he : e.column? = some c)
    (hc : c.isOf table = true) : Query.mentions table e = true := by
  obtain ⟨rest, hrest⟩ := List.isPrefixOf_iff_prefix.mp hc
  obtain ⟨before, after, htext⟩ : ∃ before after,
      e.text.toList = before ++ c.text.toList ++ after := by
    cases e with
    | column c' =>
      cases he
      exact ⟨[], [], by simp⟩
    | countRows => cases he
    | countDistinct c' =>
      cases he
      exact ⟨"COUNT(DISTINCT ".toList, [')'], by simp⟩
    | apply function c' =>
      cases he
      exact ⟨function.toList ++ ['('], [')'], by simp⟩
  rw [Query.mentions, occurs_iff]
  exact ⟨before, rest ++ after, by rw [htext, ← hrest]; simp⟩

/-- A field that may be grouped by directly has no column of games. -/
theorem isOf_of_directlySummarisable {s : Scope} (hs : s.context = .milestone) {name : String}
    (hname : s.directlySummarisable name = true) {c : Column} (hc : s.column name = .ok c) :
    c.isOf Context.game.short = false := by
  obtain ⟨hnear, -⟩ := Bool.and_eq_true_iff.mp hname
  unfold Scope.column at hc
  split at hc
  · rename_i context spec hres
    cases hc
    rw [hres, hs] at hnear
    obtain rfl : context = .milestone := by simpa [Owner.context] using hnear
    exact isOf_columnOf_milestone spec
  · cases hc

namespace Query

/-! ## What every step keeps -/

/-- **A query is prepared for its join**: the condition states the equality of the join if there is one,
and nothing else; a query about games joins nothing; and a query about milestones that does not join
games groups by fields of milestones only. -/
structure Prepared (q : Query) : Prop where
  texts : q.condition.fixedTexts = q.joinTexts
  game : q.scope.context = .game → q.joined = false
  near : q.scope.context = .milestone → q.joined = false →
    ∀ f ∈ q.groupFields, q.scope.directlySummarisable f.field = true

/-- **Games are joined where they are read**: beside what is prepared, a query about milestones that
does not join games reads none of their columns in its condition, its order and its extra columns. -/
structure Joins (q : Query) : Prop extends Prepared q where
  reads : q.scope.context = .milestone → q.joined = false → q.readsGames = false

variable {q : Query}

/-! ### Joining -/

theorem fixupJoin_of_game (h : q.scope.context = .game) : q.fixupJoin = q := by
  unfold fixupJoin
  rw [h]
  cases q.joined <;> rfl

theorem joined_fixupJoin (h : q.scope.context = .milestone) : q.fixupJoin.joined = true := by
  unfold fixupJoin
  rw [h]
  cases hjoined : q.joined with
  | true => exact hjoined
  | false => rfl

theorem fixedTexts_fixupJoin (h : q.condition.fixedTexts = q.joinTexts) :
    q.fixupJoin.condition.fixedTexts = q.fixupJoin.joinTexts := by
  unfold fixupJoin
  split
  · rename_i far hjoined hfar
    have hnone : q.joinTexts = [] := by simp [joinTexts, hjoined]
    rw [Condition.fixedTexts_add, h, hnone]
    simp [joinTexts, hfar, Condition.fixedTexts]
  · exact h

/-- A query that is joined is prepared, whatever it groups by. -/
theorem Prepared.fixupJoin (htexts : q.condition.fixedTexts = q.joinTexts)
    (hgame : q.scope.context = .game → q.Prepared) : q.fixupJoin.Prepared := by
  cases hcontext : q.scope.context with
  | game =>
    rw [fixupJoin_of_game hcontext]
    exact hgame hcontext
  | milestone =>
    have hscope : q.fixupJoin.scope.context = .milestone := by rw [scope_fixupJoin, hcontext]
    refine ⟨fixedTexts_fixupJoin htexts, fun hother => ?_, fun _ hjoined => ?_⟩
    · rw [hscope] at hother
      cases hother
    · rw [joined_fixupJoin hcontext] at hjoined
      cases hjoined

theorem Joins.fixupJoin (h : q.Joins) : q.fixupJoin.Joins := by
  refine ⟨Prepared.fixupJoin h.texts fun _ => h.toPrepared, fun hcontext hjoined => ?_⟩
  rw [scope_fixupJoin] at hcontext
  rw [joined_fixupJoin hcontext] at hjoined
  cases hjoined

/-- **Looking for a join makes up for what was added.** -/
theorem Prepared.checkJoins (h : q.Prepared) : q.checkJoins.Joins := by
  unfold Query.checkJoins
  split
  · rename_i hdone
    refine ⟨h, fun hcontext hjoined => ?_⟩
    rw [hjoined, hcontext] at hdone
    cases hdone
  · split
    · rename_i hopen _
      have hmilestone : q.scope.context = .milestone := by
        cases hcontext : q.scope.context with
        | game => simp [hcontext, Context.fallback?] at hopen
        | milestone => rfl
      refine ⟨Prepared.fixupJoin h.texts fun _ => h, fun _ hjoined => ?_⟩
      rw [joined_fixupJoin hmilestone] at hjoined
      cases hjoined
    · rename_i hreads
      exact ⟨h, fun _ _ => Bool.eq_false_iff.mpr hreads⟩

/-! ### The steps -/

theorem fixedTexts_pivotCondition? {s : Scope} {f : GroupField} {node : Condition}
    (h : pivotCondition? s f = some node) : node.fixedTexts = [] := by
  unfold pivotCondition? at h
  split at h
  · split at h
    · cases h
      rfl
    · cases h
  · cases h

theorem Prepared.addCondition (h : q.Prepared) {node : Condition} (hnode : node.fixedTexts = [])
    (joint : Joint) : (q.addCondition joint node).Joins := by
  refine Prepared.checkJoins ⟨?_, h.game, h.near⟩
  rw [Condition.fixedTexts_add, hnode, List.append_nil]
  exact h.texts

theorem Prepared.setExtra (h : q.Prepared) (extra : ExtraList) : (q.setExtra extra).Joins :=
  Prepared.checkJoins ⟨h.texts, h.game, h.near⟩

theorem Prepared.setRowSort (h : q.Prepared) {field : String} {largest : Bool} {q' : Query}
    (hsort : q.setRowSort field largest = .ok q') : q'.Joins := by
  obtain ⟨column, direction, rfl⟩ := setRowSort_eq_ok hsort
  exact Prepared.checkJoins ⟨h.texts, h.game, h.near⟩

/-- **Groups join games unless all their fields are those of milestones.** -/
theorem Prepared.setGroup (h : q.Prepared) (list : GroupList) : (q.setGroup list).Joins := by
  have htexts : ((list.fields.filterMap (pivotCondition? q.scope)).foldl
      (fun c node => c.add .and node) q.condition).fixedTexts = q.joinTexts := by
    rw [Condition.fixedTexts_foldl, h.texts]
    intro node hnode
    obtain ⟨f, -, hf⟩ := List.mem_filterMap.mp hnode
    exact fixedTexts_pivotCondition? hf
  unfold Query.setGroup
  dsimp only
  split
  · refine (Prepared.fixupJoin htexts fun hcontext => ?_).checkJoins
    refine ⟨htexts, h.game, fun hother => ?_⟩
    rw [show q.scope.context = .milestone from hother] at hcontext
    cases hcontext
  · rename_i hnear
    refine Prepared.checkJoins ⟨htexts, h.game, fun _ _ f hf => ?_⟩
    rw [Bool.not_eq_true, List.any_eq_false] at hnear
    simpa using hnear f hf

end Query

/-- A step adds no text to a condition but comparisons. -/
def QueryStep.ComparesOnly : QueryStep → Prop
  | .condition _ node => node.fixedTexts = []
  | _ => True

namespace Query

variable {q : Query}

/-- **Every step keeps games joined where they are read.** -/
theorem Joins.step (h : q.Joins) {s : QueryStep} (hs : s.ComparesOnly) : (q.step s).Joins := by
  cases s with
  | condition joint node => exact h.toPrepared.addCondition hs joint
  | extra list => exact h.toPrepared.setExtra list
  | group list => exact h.toPrepared.setGroup list
  | rowSort field largest =>
    rw [Query.step]
    cases hsort : q.setRowSort field largest with
    | error e => exact h
    | ok q' => exact h.toPrepared.setRowSort hsort
  | checkJoins => exact h.toPrepared.checkJoins
  | join => exact h.fixupJoin
  | reverse => exact ⟨⟨h.texts, h.game, h.near⟩, h.reads⟩

/-- **Every run keeps games joined where they are read.** -/
theorem Joins.run (h : q.Joins) {steps : List QueryStep} (hs : ∀ s ∈ steps, s.ComparesOnly) :
    (q.run steps).Joins := by
  induction steps generalizing q with
  | nil => exact h
  | cons s steps ih =>
    exact ih (h.step (hs s (by simp))) fun s' hs' => hs s' (by simp [hs'])

/-- A query starts with games joined where they are read. -/
theorem joins_start {s : Scope} {actor : Actor} {index : Int} {source : String}
    (h : start s actor index source = .ok q) : q.Joins ∧ q.scope = s := by
  have hfresh : ∀ condition column, condition.fixedTexts = [] →
      (unjoined s actor index source condition column).checkJoins.Joins ∧
        (unjoined s actor index source condition column).checkJoins.scope = s := by
    intro condition column htexts
    refine ⟨Prepared.checkJoins ⟨htexts, fun _ => rfl, fun _ _ f hf => ?_⟩, scope_checkJoins _⟩
    cases hf
  obtain ⟨sortColumn, -, h⟩ := bind_eq_ok.mp h
  cases actor with
  | anyone =>
    obtain rfl : (unjoined s .anyone index source .always sortColumn).checkJoins = q :=
      Except.ok.inj h
    exact hfresh .always sortColumn rfl
  | named name =>
    obtain ⟨column, -, h⟩ := bind_eq_ok.mp h
    obtain rfl : (unjoined s (.named name) index source
        (Condition.always.add .and (.compare ⟨column, .eq, .text name⟩))
        sortColumn).checkJoins = q := Except.ok.inj h
    exact hfresh (Condition.always.add .and (.compare ⟨column, .eq, .text name⟩)) sortColumn rfl

/-! ### Built queries -/

theorem Joins.addTerms (h : q.Joins) {condition : Condition} (htexts : condition.fixedTexts = []) :
    (GameLog.addTerms q condition).Joins := by
  unfold GameLog.addTerms
  split
  · rename_i parts
    induction parts generalizing q with
    | nil => exact h
    | cons part parts ih =>
      obtain ⟨hpart, hparts⟩ := List.append_eq_nil_iff.mp htexts
      exact ih (h.toPrepared.addCondition hpart .and) hparts
  · exact h.toPrepared.addCondition htexts .and

theorem Joins.addRowSorts (h : q.Joins) {tokens : List String} {q' : Query}
    (hsorts : GameLog.addRowSorts q tokens = .ok q') : q'.Joins := by
  unfold GameLog.addRowSorts at hsorts
  generalize tokens.filterMap rowSort? = sorts at hsorts
  induction sorts generalizing q with
  | nil =>
    obtain rfl : q = q' := Except.ok.inj hsorts
    exact h
  | cons sort sorts ih =>
    rw [List.foldlM_cons] at hsorts
    obtain ⟨next, hfirst, hrest⟩ := bind_eq_ok.mp hsorts
    exact ih (h.toPrepared.setRowSort hfirst) hrest

theorem Joins.addGroup (h : q.Joins) {extra : ExtraList} {group : Option GroupList} {q' : Query}
    (hgroup : GameLog.addGroup q extra group = .ok q') : q'.Joins := by
  cases group with
  | none =>
    obtain rfl : q = q' := Except.ok.inj hgroup
    exact h
  | some list =>
    simp only [GameLog.addGroup] at hgroup
    split at hgroup
    · cases hgroup
    · obtain rfl : q.setGroup list = q' := Except.ok.inj hgroup
      exact h.toPrepared.setGroup list

/-- **A built query joins games where they are read.** -/
theorem joins_of_build {c : Catalog} {context : Context} {defaultName : String} {extra : ExtraList}
    {tokens : List String} (h : buildQuery c context defaultName extra tokens = .ok q) : q.Joins := by
  obtain ⟨words, -, hwords, -⟩ := buildQuery_eq_ok h
  obtain ⟨source, start, condition, sorted, grouped, hstart, hterms, hsorts, hgroup, rfl⟩ :=
    exists_steps_of_build hwords h
  obtain ⟨tree, -, rfl⟩ := readTerms_eq_ok_iff.mp hterms
  obtain ⟨hjoins, -⟩ := joins_start hstart
  have hrandom : (start.setRandom words.random).Joins :=
    ⟨⟨hjoins.texts, hjoins.game, hjoins.near⟩, hjoins.reads⟩
  have hterm := hrandom.addTerms
    (TermTree.fixedTexts_condition (words.scope c context).comparison tree)
  exact ((hterm.addRowSorts hsorts).addGroup hgroup).toPrepared.setExtra extra

/-! ## What statements read -/

/-- What a query without games selects, groups and orders by decides whether its statement reads
them: its condition does not. -/
theorem Joins.reads_eq_false (h : q.Joins) (hcontext : q.scope.context = .milestone)
    (hjoined : q.joined = false) {st : Statement} (hst : st.condition = q.condition)
    (hselected : ∀ item ∈ st.selected, ∀ c, item.expression.column? = some c →
      c.isOf Context.game.short = false)
    (hgroup : ∀ c ∈ st.groupBy, c.isOf Context.game.short = false)
    (horder : ∀ term ∈ st.orderBy, ∀ c, term.key = .column c →
      c.isOf Context.game.short = false) : st.reads Context.game.short = false := by
  have hnone : st.condition.fixedTexts = [] := by
    rw [hst, h.texts]
    simp [joinTexts, hjoined]
  have hreads := h.reads hcontext hjoined
  simp only [readsGames, Bool.or_eq_false_iff] at hreads
  obtain ⟨⟨hcondition, -⟩, -⟩ := hreads
  rw [Condition.references, ← hst, List.any_eq_false] at hcondition
  rw [Statement.reads, List.any_eq_false]
  simp only [Bool.not_eq_true]
  refine Statement.forall_mem_columns hselected (fun comparison hcomparison => ?_)
    (fun text htext => ?_) hgroup horder
  · exact Bool.eq_false_iff.mpr (hcondition comparison hcomparison)
  · rw [hnone] at htext
    cases htext

theorem Joins.isOf_extra (h : q.Joins) (hcontext : q.scope.context = .milestone)
    (hjoined : q.joined = false) {f : ExtraField} (hf : f ∈ q.extra.fields) {c : Column}
    (hc : f.selected.expression.column? = some c) : c.isOf Context.game.short = false := by
  have hreads := h.reads hcontext hjoined
  simp only [readsGames, Bool.or_eq_false_iff] at hreads
  obtain ⟨-, hextra⟩ := hreads
  by_contra hof
  have hmentions := mentions_of_isOf hc ((Bool.not_eq_false _).mp hof)
  exact List.any_eq_false.mp hextra f hf hmentions

theorem Joins.reads_selectCount (h : q.Joins) (hcontext : q.scope.context = .milestone)
    (hjoined : q.joined = false) : q.selectCount.reads Context.game.short = false := by
  refine h.reads_eq_false hcontext hjoined rfl (fun item hitem c hc => ?_) (by nofun) (by nofun)
  obtain rfl := List.mem_singleton.mp hitem
  cases hc

theorem Joins.reads_selectRows (h : q.Joins) (hcontext : q.scope.context = .milestone)
    (hjoined : q.joined = false) : q.selectRows.reads Context.game.short = false := by
  refine h.reads_eq_false hcontext hjoined rfl (fun item hitem c hc => ?_) (by nofun)
    (fun term hterm c hc => ?_)
  · rcases List.mem_append.mp hitem with hitem | hitem
    · obtain ⟨spec, -, rfl⟩ := List.mem_map.mp hitem
      cases hc
      rw [hcontext]
      exact isOf_columnOf_milestone spec
    · obtain ⟨f, hf, rfl⟩ := List.mem_map.mp hitem
      have hfield : f ∈ q.extra.fields := by
        unfold rowExtras at hf
        split at hf
        · cases hf
        · exact hf
      exact h.isOf_extra hcontext hjoined hfield hc
  · have hreads := h.reads hcontext hjoined
    simp only [readsGames, Bool.or_eq_false_iff] at hreads
    obtain ⟨⟨-, hsort⟩, -⟩ := hreads
    rcases List.mem_cons.mp hterm with rfl | hterm
    · cases hc
      exact hsort
    · obtain rfl := List.mem_singleton.mp hterm
      cases hc
      rw [hcontext]
      decide

theorem Joins.reads_selectGroups (h : q.Joins) (hcontext : q.scope.context = .milestone)
    (hjoined : q.joined = false) {st : Statement} (hst : q.selectGroups = .ok st) :
    st.reads Context.game.short = false := by
  obtain ⟨columns, hcolumns, hst⟩ := bind_eq_ok.mp hst
  obtain rfl := Except.ok.inj hst
  have hgroups : ∀ c ∈ columns, c.isOf Context.game.short = false := by
    intro c hc
    obtain ⟨f, hf, hcolumn⟩ := exists_of_mem_mapM hcolumns hc
    exact isOf_of_directlySummarisable hcontext (h.near hcontext hjoined f hf) hcolumn
  refine h.reads_eq_false hcontext hjoined rfl (fun item hitem c hc => ?_) hgroups
    (fun term hterm c hc => ?_)
  · rcases List.mem_append.mp hitem with hitem | hitem
    · rcases List.mem_cons.mp hitem with rfl | hitem
      · cases hc
      · obtain ⟨column, hcolumn, rfl⟩ := List.mem_map.mp hitem
        cases hc
        exact hgroups c hcolumn
    · obtain ⟨f, hf, rfl⟩ := List.mem_map.mp hitem
      exact h.isOf_extra hcontext hjoined hf hc
  · -- groups are ordered by their count only
    dsimp only at hterm
    split at hterm
    · obtain rfl := List.mem_singleton.mp hterm
      cases hc
    · cases hterm

/-! ## Every run -/

/-- **A query reads the tables that it names.** About games it reads their table alone. About milestones
it reads their table alone and its condition states no equality, or it is joined, reads the table of
games behind that one, and states the equality of the join once; and it is joined if one of its
statements names a column of games. -/
structure ReadsItsTables (s : Scope) (q : Query) : Prop where
  game : s.context = .game → q.joined = false ∧ q.tables = [s.table .game] ∧
    q.condition.fixedTexts = []
  apart : s.context = .milestone → q.joined = false → q.tables = [s.table .milestone] ∧
    q.condition.fixedTexts = []
  together : s.context = .milestone → q.joined = true →
    q.tables = [s.table .milestone, s.table .game] ∧
      q.condition.fixedTexts = [joinText .milestone .game]
  named : s.context = .milestone → ∀ st,
    (st = q.selectCount ∨ st = q.selectRows ∨ q.selectGroups = .ok st) →
      st.reads Context.game.short = true → q.joined = true

theorem Joins.readsItsTables (h : q.Joins) : ReadsItsTables q.scope q := by
  have htexts := h.texts
  constructor
  · intro hcontext
    have hjoined := h.game hcontext
    rw [joinTexts, hjoined] at htexts
    exact ⟨hjoined, by rw [tables, hcontext, hjoined]; rfl, htexts⟩
  · intro hcontext hjoined
    rw [joinTexts, hjoined] at htexts
    exact ⟨by rw [tables, hcontext, hjoined]; rfl, htexts⟩
  · intro hcontext hjoined
    rw [joinTexts, hjoined, hcontext] at htexts
    exact ⟨by rw [tables, hcontext, hjoined]; rfl, htexts⟩
  · intro hcontext st hst hreads
    by_contra hjoined
    rw [Bool.not_eq_true] at hjoined
    have hnone : st.reads Context.game.short = false := by
      rcases hst with rfl | rfl | hst
      · exact h.reads_selectCount hcontext hjoined
      · exact h.reads_selectRows hcontext hjoined
      · exact h.reads_selectGroups hcontext hjoined hst
    rw [hnone] at hreads
    cases hreads

/-- **After each step of every run, a query reads the tables that it names**, if the conditions that are
added are made of comparisons. Extra columns, groups and orders may be any. -/
theorem run_reads_its_tables {s : Scope} {actor : Actor} {index : Int} {source : String} {q : Query}
    {steps : List QueryStep} (hstart : start s actor index source = .ok q)
    (hsteps : ∀ step ∈ steps, step.ComparesOnly) (n : Nat) :
    ReadsItsTables s (q.run (steps.take n)) := by
  obtain ⟨hjoins, rfl⟩ := joins_start hstart
  have hall : (q.run (steps.take n)).Joins :=
    hjoins.run fun step hstep => hsteps step (List.mem_of_mem_take hstep)
  have hscope : (q.run (steps.take n)).scope = q.scope := scope_run q (steps.take n)
  rw [← hscope]
  exact hall.readsItsTables

/-- Steps that come to games twice: by an order, and by a group behind another condition. -/
def milestoneSteps : List QueryStep :=
  [.condition .or (.joined .and [.compare ⟨⟨some "mst", "xl"⟩, .gt, .integer 5⟩]),
    .rowSort "sc" true, .join, .reverse,
    .condition .or (.joined .or [.compare ⟨⟨some "lg", "ktyp"⟩, .eq, .text "winning"⟩]),
    .group ⟨⟨.descending, "god", false, some .text⟩, some ⟨.descending, "ktyp", true, some .text⟩,
      "s=god,ktyp%"⟩, .checkJoins]

/-- Over the built-in catalog, a query about milestones reads the tables that it names after each of
these steps; at first it is not joined, and in the end it is. -/
theorem milestone_steps_read_their_tables : ∃ q,
    start ⟨.builtin, .milestone, "crawl"⟩ (.named "Ell") 0 "" = .ok q ∧
      (∀ step ∈ milestoneSteps, step.ComparesOnly) ∧ q.joined = false ∧
      (q.run milestoneSteps).joined = true ∧
      ∀ n, ReadsItsTables ⟨.builtin, .milestone, "crawl"⟩ (q.run (milestoneSteps.take n)) := by
  have hjoined : (start ⟨.builtin, .milestone, "crawl"⟩ (.named "Ell") 0 "").toOption.map (fun q =>
      (q.joined, (q.run milestoneSteps).joined)) = some (false, true) := by decide +kernel
  obtain ⟨q, hstart, hboth⟩ := exists_ok_of_map hjoined
  obtain ⟨hfirst, hlast⟩ := Prod.mk.inj hboth
  have hsteps : ∀ step ∈ milestoneSteps, step.ComparesOnly := by
    simp [milestoneSteps, QueryStep.ComparesOnly, Condition.fixedTexts, Condition.fixedTextsIn]
  exact ⟨q, hstart, hsteps, hfirst, hlast, run_reads_its_tables hstart hsteps⟩

end Query

end GameLog
