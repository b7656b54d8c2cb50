import GameLog.Proofs.Query.Building

/-!
# The order that tokens ask for

A token such as `max=sc` asks for the row with the largest value of a field. Among the tokens of a
query the last such token counts: nothing that is done to the query behind it changes the order.

Main statements:
* `Query.AsksForLargest.isSortedBy`: the order of a query whose tokens ask for a largest value;
* `Query.orderNamed_of_build`: every order is by a column that a name in scope stands for.
-/

namespace GameLog

namespace Query

/-- **The order of a query is a row sort by a field**: it is by the column of the field, and the last
row has its largest value, or its least one. -/
def IsSortedBy (q : Query) (field : String) (largest : Bool) : Prop :=
  ∃ name, q.scope.canonical field = .ok name ∧ q.scope.column name = .ok q.sortColumn ∧
    q.sortDirection = if largest then .ascending else .descending

/-- **A query for the largest value of a field**: of the tokens that it is built from, the last row
sort asks for it. -/
def AsksForLargest (q : Query) (field : String) : Prop :=
  ∃ c context defaultName extra tokens words,
    QueryWords.read c context defaultName tokens = .ok words ∧
      buildQuery c context defaultName extra tokens = .ok q ∧
      (words.rowSorts.filterMap rowSort?).getLast? = some (true, field)

variable {q q' : Query} {field : String} {largest : Bool}

/-! ## Steps that keep the order -/

/-- **Two queries have the same order** of rows in the same scope. -/
structure SameOrder (q q' : Query) : Prop where
  scope : q'.scope = q.scope
  column : q'.sortColumn = q.sortColumn
  direction : q'.sortDirection = q.sortDirection

theorem SameOrder.trans {q'' : Query} (h : SameOrder q q') (h' : SameOrder q' q'') :
    SameOrder q q'' :=
  ⟨h'.scope.trans h.scope, h'.column.trans h.column, h'.direction.trans h.direction⟩

theorem sameOrder_fixupJoin (q : Query) : SameOrder q q.fixupJoin := by
  unfold fixupJoin
  split <;> exact ⟨rfl, rfl, rfl⟩

theorem SameOrder.fixupJoin (h : SameOrder q q') : SameOrder q q'.fixupJoin :=
  h.trans (sameOrder_fixupJoin q')

theorem sameOrder_checkJoins (q : Query) : SameOrder q q.checkJoins := by
  unfold checkJoins
  split
  · exact ⟨rfl, rfl, rfl⟩
  · split
    · exact sameOrder_fixupJoin q
    · exact ⟨rfl, rfl, rfl⟩

theorem SameOrder.checkJoins (h : SameOrder q q') : SameOrder q q'.checkJoins :=
  h.trans (sameOrder_checkJoins q')

theorem sameOrder_addCondition (q : Query) (joint : Joint) (node : Condition) :
    SameOrder q (q.addCondition joint node) :=
  SameOrder.checkJoins ⟨rfl, rfl, rfl⟩

theorem sameOrder_setExtra (q : Query) (extra : ExtraList) : SameOrder q (q.setExtra extra) :=
  SameOrder.checkJoins ⟨rfl, rfl, rfl⟩

theorem sameOrder_setGroup (q : Query) (list : GroupList) : SameOrder q (q.setGroup list) := by
  unfold setGroup
  dsimp only
  split
  · exact SameOrder.checkJoins (SameOrder.fixupJoin ⟨rfl, rfl, rfl⟩)
  · exact SameOrder.checkJoins ⟨rfl, rfl, rfl⟩

theorem sameOrder_addGroup {extra : ExtraList} {group : Option GroupList}
    (h : GameLog.addGroup q extra group = .ok q') : SameOrder q q' := by
  cases group with
  | none =>
    obtain rfl : q = q' := Except.ok.inj h
    exact ⟨rfl, rfl, rfl⟩
  | some list =>
    simp only [GameLog.addGroup] at h
    split at h
    · cases h
    · obtain rfl : q.setGroup list = q' := Except.ok.inj h
      exact sameOrder_setGroup q list

theorem sameOrder_addTerms (q : Query) (condition : Condition) :
    SameOrder q (addTerms q condition) := by
  unfold addTerms
  split
  · rename_i parts
    induction parts generalizing q with
    | nil => exact ⟨rfl, rfl, rfl⟩
    | cons part parts ih => exact (sameOrder_addCondition q .and part).trans (ih _)
  · exact sameOrder_addCondition q .and _

/-! ## The last row sort -/

theorem IsSortedBy.congr (h : q.IsSortedBy field largest) (hsame : SameOrder q q') :
    q'.IsSortedBy field largest := by
  unfold IsSortedBy
  rw [hsame.scope, hsame.column, hsame.direction]
  exact h

theorem isSortedBy_setRowSort (h : q.setRowSort field largest = .ok q') :
    q'.IsSortedBy field largest := by
  obtain ⟨name, hname, h⟩ := bind_eq_ok.mp h
  obtain ⟨column, hcolumn, h⟩ := bind_eq_ok.mp h
  obtain rfl := Except.ok.inj h
  have hsorted : { q with
      sortColumn := column
      sortDirection := if largest then .ascending else .descending }.IsSortedBy field largest :=
    ⟨name, hname, hcolumn, rfl⟩
  exact hsorted.congr (sameOrder_checkJoins _)

/-- The last row sort decides the order. -/
theorem isSortedBy_addRowSorts {tokens : List String}
    (h : GameLog.addRowSorts q tokens = .ok q')
    (hlast : (tokens.filterMap rowSort?).getLast? = some (largest, field)) :
    q'.IsSortedBy field largest := by
  unfold GameLog.addRowSorts at h
  obtain ⟨before, hsorts⟩ := List.getLast?_eq_some_iff.mp hlast
  rw [hsorts, List.foldlM_append] at h
  obtain ⟨last, -, h⟩ := bind_eq_ok.mp h
  rw [List.foldlM_cons] at h
  obtain ⟨sorted, hsorted, h⟩ := bind_eq_ok.mp h
  obtain rfl : sorted = q' := Except.ok.inj h
  exact isSortedBy_setRowSort hsorted

/-- **The last row sort among its tokens decides the order of a query.** -/
theorem AsksForLargest.isSortedBy (h : q.AsksForLargest field) : q.IsSortedBy field true := by
  obtain ⟨c, context, defaultName, extra, tokens, words, hwords, hbuild, hlast⟩ := h
  obtain ⟨words', hwords', hbuild⟩ := bind_eq_ok.mp hbuild
  obtain rfl : words = words' := Except.ok.inj (hwords.symm.trans hwords')
  obtain ⟨started, -, hbuild⟩ := bind_eq_ok.mp hbuild
  obtain ⟨condition, -, hbuild⟩ := bind_eq_ok.mp hbuild
  obtain ⟨sorted, hsorts, hbuild⟩ := bind_eq_ok.mp hbuild
  obtain ⟨grouped, hgroup, hbuild⟩ := bind_eq_ok.mp hbuild
  obtain rfl : grouped.setExtra extra = q := Except.ok.inj hbuild
  exact (isSortedBy_addRowSorts hsorts hlast).congr
    ((sameOrder_addGroup hgroup).trans (sameOrder_setExtra grouped extra))

/-! ## The order of a built query -/

/-- A query is ordered by a column that a name in its scope stands for. -/
def OrderNamed (q : Query) : Prop := ∃ name, q.scope.column name = .ok q.sortColumn

theorem OrderNamed.congr (h : q.OrderNamed) (hsame : SameOrder q q') : q'.OrderNamed := by
  unfold OrderNamed
  rw [hsame.scope, hsame.column]
  exact h

theorem orderNamed_start {s : Scope} {actor : Actor} {index : Int} {source : String}
    (h : start s actor index source = .ok q) : q.OrderNamed := by
  obtain ⟨column, hcolumn, -, rfl⟩ := exists_unjoined_of_start h
  have hfirst : (unjoined s actor index source
      (.joined .and ((s.actorComparisons actor).map .compare)) column).OrderNamed :=
    ⟨_, hcolumn⟩
  exact hfirst.congr (sameOrder_checkJoins _)

theorem orderNamed_addRowSorts (h : q.OrderNamed) {tokens : List String}
    (hsorts : GameLog.addRowSorts q tokens = .ok q') : q'.OrderNamed := by
  unfold GameLog.addRowSorts at hsorts
  generalize tokens.filterMap rowSort? = sorts at hsorts
  induction sorts generalizing q with
  | nil =>
    obtain rfl : q = q' := Except.ok.inj hsorts
    exact h
  | cons sort sorts ih =>
    rw [List.foldlM_cons] at hsorts
    obtain ⟨next, hfirst, hrest⟩ := bind_eq_ok.mp hsorts
    obtain ⟨name, -, hcolumn, -⟩ := isSortedBy_setRowSort hfirst
    exact ih ⟨name, hcolumn⟩ hrest

/-- **A built query is ordered by a column that a name in its scope stands for.** -/
theorem orderNamed_of_build {c : Catalog} {context : Context} {defaultName : String}
    {extra : ExtraList} {tokens : List String}
    (h : buildQuery c context defaultName extra tokens = .ok q) : q.OrderNamed := by
  obtain ⟨words, -, hwords, -⟩ := buildQuery_eq_ok h
  obtain ⟨source, start, condition, sorted, grouped, hstart, -, hsorts, hgroup, rfl⟩ :=
    exists_steps_of_build hwords h
  have hrandom : SameOrder start (start.setRandom words.random) := ⟨rfl, rfl, rfl⟩
  have hterms := (orderNamed_start hstart).congr
    (hrandom.trans (sameOrder_addTerms _ condition))
  exact (orderNamed_addRowSorts hterms hsorts).congr
    ((sameOrder_addGroup hgroup).trans (sameOrder_setExtra grouped extra))

end Query

end GameLog
