import GameLog.Proofs.Outcome
import GameLog.Proofs.Query.Grammar
import GameLog.Query.Group
import GameLog.Store.Select

/-!
# What a built query says

A query is built from a start by conditions, sorts, groups and extra columns, and any of these steps
may join games. What its condition says is kept through all of them in one form (`Query.Says`): its
comparisons in their order, what has to hold of them, and the equality of the join if there is one,
which is in the condition once.

Main statements:
* `Says.and`, `Says.checkJoins`: each step adds what it asks for, and joining adds its equality;
* `buildQuery_eq_ok`: a built query says what its actor, its terms and its groups ask for;
* `parse_eq`: a command is parsed by reading its words and building its queries;
* `parse_eq_ok`: these are built one by one.
-/

namespace GameLog

open GameLog.Text

/-! ## Conditions put together -/

namespace Condition

theorem fixedTextsIn_append (a b : List Condition) :
    fixedTextsIn (a ++ b) = fixedTextsIn a ++ fixedTextsIn b := by
  induction a with
  | nil => rfl
  | cons part parts ih => simp [fixedTextsIn, ih]

mutual

theorem fixedTexts_of_isEmpty : (c : Condition) → c.isEmpty = true → c.fixedTexts = []
  | joined _ parts, h => by
    rw [fixedTexts]
    exact fixedTextsIn_of_areEmpty parts (by simpa [isEmpty] using h)
  | compare _, _ => rfl
  | fixed _, h => by simp [isEmpty] at h

theorem fixedTextsIn_of_areEmpty : (parts : List Condition) → areEmpty parts = true →
    fixedTextsIn parts = []
  | [], _ => rfl
  | part :: parts, h => by
    simp only [areEmpty, Bool.and_eq_true] at h
    rw [fixedTextsIn, fixedTexts_of_isEmpty part h.1, fixedTextsIn_of_areEmpty parts h.2]
    rfl

end

/-- Extending a condition appends the fixed texts of what is added. -/
theorem fixedTexts_add (c : Condition) (joint : Joint) (node : Condition) :
    (c.add joint node).fixedTexts = c.fixedTexts ++ node.fixedTexts := by
  cases c with
  | joined root parts =>
    rw [add]
    by_cases hroot : root = joint
    · rw [if_pos hroot]
      simp [fixedTexts, fixedTextsIn_append, fixedTextsIn]
    · rw [if_neg hroot]
      by_cases hempty : areEmpty parts = true
      · rw [if_pos hempty]
        simp [fixedTexts, fixedTextsIn, fixedTextsIn_of_areEmpty parts hempty]
      · rw [if_neg hempty]
        simp [fixedTexts, fixedTextsIn]
  | compare c => simp [add, fixedTexts, fixedTextsIn]
  | fixed text => simp [add, fixedTexts, fixedTextsIn]

theorem holds_add_and (a : Assignment) (c node : Condition) :
    (c.add .and node).holds a = (c.holds a && node.holds a) := by
  rw [holds_add]
  by_cases hnode : node.isEmpty = true
  · rw [if_pos hnode, holds_of_isEmpty a hnode, Bool.and_true]
  rw [if_neg hnode]
  by_cases hc : c.isEmpty = true
  · rw [if_pos hc, holds_of_isEmpty a hc, Bool.true_and]
  · rw [if_neg hc]
    rfl

theorem fixedTexts_foldl {nodes : List Condition} (hnodes : ∀ node ∈ nodes, node.fixedTexts = [])
    (c : Condition) :
    (nodes.foldl (fun c node => c.add .and node) c).fixedTexts = c.fixedTexts := by
  induction nodes generalizing c with
  | nil => rfl
  | cons node nodes ih =>
    rw [List.foldl_cons, ih (fun n hn => hnodes n (by simp [hn])), fixedTexts_add,
      hnodes node (by simp), List.append_nil]

theorem comparisons_foldl (cs : List Comparison) (c : Condition) :
    ((cs.map compare).foldl (fun c node => c.add .and node) c).comparisons =
      c.comparisons ++ cs := by
  induction cs generalizing c with
  | nil => simp
  | cons first cs ih =>
    rw [List.map_cons, List.foldl_cons, ih, comparisons_add, comparisons, List.append_assoc]
    rfl

theorem holds_foldl (a : Assignment) (cs : List Comparison) (c : Condition) :
    ((cs.map compare).foldl (fun c node => c.add .and node) c).holds a =
      (c.holds a && cs.all a.comparison) := by
  induction cs generalizing c with
  | nil => simp
  | cons first cs ih =>
    rw [List.map_cons, List.foldl_cons, ih, holds_add_and, holds, List.all_cons, Bool.and_assoc]

theorem allHold_cons (a : Assignment) (part : Condition) (parts : List Condition) :
    allHold a (part :: parts) = (part.holds a && allHold a parts) := by
  rw [allHold]
  by_cases h : part.isEmpty = true
  · rw [h, holds_of_isEmpty a h, Bool.true_or]
  · rw [Bool.eq_false_iff.mpr h, Bool.false_or]

end Condition

/-! ## What a query says -/

namespace Query

/-- The equality that joins a query, if it is joined. -/
def joinTexts (q : Query) : List String :=
  if q.joined then (q.scope.context.fallback?.map (joinText q.scope.context)).toList else []

/-- **What a query says**: its comparisons in their order and what has to hold of them, beside the
equality of its join. -/
structure Says (q : Query) (comparisons : List Comparison) (meaning : Assignment → Bool) :
    Prop where
  comparisons_eq : q.condition.comparisons = comparisons
  fixedTexts_eq : q.condition.fixedTexts = q.joinTexts
  holds_eq : ∀ a, q.condition.holds a = (meaning a && q.joinTexts.all a.fixed)

/-- **Two queries are alike** if they read the same rows of the same actor in the same groups with
the same extra columns, whatever their conditions and their order are. -/
structure Alike (q q' : Query) : Prop where
  scope : q'.scope = q.scope
  actor : q'.actor = q.actor
  group : q'.group = q.group
  extra : q'.extra = q.extra

theorem Alike.refl (q : Query) : Alike q q := ⟨rfl, rfl, rfl, rfl⟩

theorem Alike.trans {q q' q'' : Query} (h : Alike q q') (h' : Alike q' q'') : Alike q q'' :=
  ⟨h'.scope.trans h.scope, h'.actor.trans h.actor, h'.group.trans h.group, h'.extra.trans h.extra⟩

/-! ### Joining -/

theorem alike_fixupJoin (q : Query) : Alike q q.fixupJoin := by
  unfold fixupJoin
  split <;> exact ⟨rfl, rfl, rfl, rfl⟩

theorem alike_checkJoins (q : Query) : Alike q q.checkJoins := by
  unfold checkJoins
  split
  · exact .refl q
  · split
    · exact alike_fixupJoin q
    · exact .refl q

variable {q : Query} {comparisons : List Comparison} {meaning : Assignment → Bool}

/-- Joining adds the equality of the join, once. -/
theorem Says.fixupJoin (h : q.Says comparisons meaning) : q.fixupJoin.Says comparisons meaning := by
  unfold Query.fixupJoin
  split
  · rename_i far hjoined hfar
    have hnone : q.joinTexts = [] := by simp [joinTexts, hjoined]
    have hone : { q with
        joined := true
        condition := q.condition.add .and (.fixed (joinText q.scope.context far)) }.joinTexts =
        [joinText q.scope.context far] := by simp [joinTexts, hfar]
    constructor
    · simp [Condition.comparisons_add, h.comparisons_eq, Condition.comparisons]
    · simp only [hone, Condition.fixedTexts_add, h.fixedTexts_eq, hnone, Condition.fixedTexts,
        List.nil_append]
    · intro a
      simp only [hone, Condition.holds_add_and, h.holds_eq a, hnone, Condition.holds, List.all_nil,
        List.all_cons, Bool.and_true]
  · exact h

theorem Says.checkJoins (h : q.Says comparisons meaning) :
    q.checkJoins.Says comparisons meaning := by
  unfold Query.checkJoins
  split
  · exact h
  · split
    · exact h.fixupJoin
    · exact h

/-! ### Conditions -/

theorem Says.add (h : q.Says comparisons meaning) {node : Condition}
    (hnode : node.fixedTexts = []) :
    { q with condition := q.condition.add .and node }.Says (comparisons ++ node.comparisons)
      fun a => meaning a && node.holds a := by
  constructor
  · rw [Condition.comparisons_add, h.comparisons_eq]
  · rw [Condition.fixedTexts_add, hnode, List.append_nil]
    exact h.fixedTexts_eq
  · intro a
    rw [Condition.holds_add_and, h.holds_eq a, Bool.and_right_comm]
    rfl

/-- **Each condition adds its comparisons and what they have to satisfy.** -/
theorem Says.and (h : q.Says comparisons meaning) {node : Condition}
    (hnode : node.fixedTexts = []) :
    (q.addCondition .and node).Says (comparisons ++ node.comparisons)
      fun a => meaning a && node.holds a :=
  (h.add hnode).checkJoins

theorem Says.congr {cs : List Comparison} {f : Assignment → Bool} (h : q.Says comparisons meaning)
    (hcs : comparisons = cs) (hf : ∀ a, meaning a = f a) : q.Says cs f :=
  ⟨h.comparisons_eq.trans hcs, h.fixedTexts_eq, fun a => by rw [h.holds_eq a, hf a]⟩

theorem alike_addCondition (q : Query) (joint : Joint) (node : Condition) :
    Alike q (q.addCondition joint node) := by
  have hsame : Alike q { q with condition := q.condition.add joint node } := ⟨rfl, rfl, rfl, rfl⟩
  exact hsame.trans (alike_checkJoins _)

/-! ### Sorts and extra columns -/

theorem Says.setExtra (h : q.Says comparisons meaning) (extra : ExtraList) :
    (q.setExtra extra).Says comparisons meaning := by
  have hsame : { q with extra := extra }.Says comparisons meaning :=
    ⟨h.comparisons_eq, h.fixedTexts_eq, h.holds_eq⟩
  exact hsame.checkJoins

theorem setRowSort_eq_ok {q' : Query} {field : String} {largest : Bool}
    (h : q.setRowSort field largest = .ok q') :
    ∃ column direction,
      q' = { q with sortColumn := column, sortDirection := direction }.checkJoins := by
  obtain ⟨name, -, h⟩ := bind_eq_ok.mp h
  obtain ⟨column, -, h⟩ := bind_eq_ok.mp h
  exact ⟨column, _, (Except.ok.inj h).symm⟩

theorem Says.setRowSort (h : q.Says comparisons meaning) {q' : Query} {field : String}
    {largest : Bool} (hsort : q.setRowSort field largest = .ok q') :
    q'.Says comparisons meaning ∧ Alike q q' := by
  obtain ⟨column, direction, rfl⟩ := setRowSort_eq_ok hsort
  have hsame : { q with sortColumn := column, sortDirection := direction }.Says comparisons meaning :=
    ⟨h.comparisons_eq, h.fixedTexts_eq, h.holds_eq⟩
  have halike : Alike q { q with sortColumn := column, sortDirection := direction } :=
    ⟨rfl, rfl, rfl, rfl⟩
  exact ⟨hsame.checkJoins, halike.trans (alike_checkJoins _)⟩

/-- Row sorts, one after another, change the order only. -/
theorem Says.addRowSorts (tokens : List String) {q' : Query} (h : q.Says comparisons meaning)
    (hsort : GameLog.addRowSorts q tokens = .ok q') : q'.Says comparisons meaning ∧ Alike q q' := by
  unfold GameLog.addRowSorts at hsort
  generalize tokens.filterMap rowSort? = sorts at hsort
  induction sorts generalizing q with
  | nil =>
    obtain rfl : q = q' := Except.ok.inj hsort
    exact ⟨h, .refl q⟩
  | cons sort sorts ih =>
    obtain ⟨largest, field⟩ := sort
    rw [List.foldlM_cons] at hsort
    obtain ⟨next, hfirst, hrest⟩ := bind_eq_ok.mp hsort
    obtain ⟨hnext, halike⟩ := h.setRowSort hfirst
    obtain ⟨hlast, halike'⟩ := ih hnext hrest
    exact ⟨hlast, halike.trans halike'⟩

/-! ### Terms -/

/-- Parts added one by one are all of them. -/
theorem Says.foldl (parts : List Condition) (h : q.Says comparisons meaning)
    (hparts : Condition.fixedTextsIn parts = []) :
    (parts.foldl (fun q part => q.addCondition .and part) q).Says
        (comparisons ++ Condition.comparisonsIn parts)
        (fun a => meaning a && Condition.allHold a parts) ∧
      Alike q (parts.foldl (fun q part => q.addCondition .and part) q) := by
  induction parts generalizing q comparisons meaning with
  | nil =>
    refine ⟨h.congr ?_ fun a => ?_, .refl q⟩
    · simp [Condition.comparisonsIn]
    · simp [Condition.allHold]
  | cons part parts ih =>
    obtain ⟨hpart, hrest⟩ := List.append_eq_nil_iff.mp hparts
    obtain ⟨hall, halike⟩ := ih (h.and hpart) hrest
    refine ⟨hall.congr ?_ fun a => ?_, (alike_addCondition q .and part).trans halike⟩
    · rw [Condition.comparisonsIn, List.append_assoc]
    · rw [Condition.allHold_cons, Bool.and_assoc]

/-- **The terms of a query are put beside what it says**, one by one where they hold together. -/
theorem Says.addTerms (h : q.Says comparisons meaning) {condition : Condition}
    (hc : condition.fixedTexts = []) :
    (GameLog.addTerms q condition).Says (comparisons ++ condition.comparisons)
        (fun a => meaning a && condition.holds a) ∧ Alike q (GameLog.addTerms q condition) := by
  have hone : (q.addCondition .and condition).Says (comparisons ++ condition.comparisons)
      (fun a => meaning a && condition.holds a) ∧ Alike q (q.addCondition .and condition) :=
    ⟨h.and hc, alike_addCondition q .and condition⟩
  match condition with
  | .joined .and parts =>
    have hparts := h.foldl parts (by simpa [Condition.fixedTexts] using hc)
    simpa [GameLog.addTerms, Condition.comparisons, Condition.holds] using hparts
  | .joined .or parts => exact hone
  | .compare c => exact hone
  | .fixed text => exact hone

/-! ### Groups -/

end Query

namespace Scope

/-- The column of a name. Nothing is asked of names without one. -/
def columnAt (s : Scope) (name : String) : Column := ((s.column name).toOption).getD ⟨none, name⟩

theorem columnAt_eq {s : Scope} {name : String} {column : Column} (h : s.column name = .ok column) :
    s.columnAt name = column := by
  simp [columnAt, h, Except.toOption]

/-- The comparison with the name of an actor, if one is named. -/
def actorComparisons (s : Scope) : Actor → List Comparison
  | .anyone => []
  | .named name => [⟨s.columnAt actorField, .eq, .text name⟩]

/-- Whether milestones have a type in a scope. -/
def hasVerb (s : Scope) : Bool := (s.column verbField).toOption.isSome

/-- The fields of groups that stand for milestone types. -/
def pivots (s : Scope) (group : Option GroupList) : List GroupField :=
  ((group.map GroupList.fields).getD []).filter fun f => s.isPivot f.field

/-- The comparison with each milestone type among the groups, if milestones have a type. -/
def pivotComparisons (s : Scope) (group : Option GroupList) : List Comparison :=
  if s.hasVerb then (s.pivots group).map fun f => ⟨s.columnAt verbField, .eq, .text f.field⟩ else []

/-- The conditions of group fields are the comparisons with milestone types. -/
theorem filterMap_pivotCondition? (s : Scope) (fields : List GroupField) :
    fields.filterMap (Query.pivotCondition? s) =
      (if s.hasVerb then (fields.filter fun f => s.isPivot f.field).map fun f =>
        (⟨s.columnAt verbField, .eq, .text f.field⟩ : Comparison) else []).map .compare := by
  induction fields with
  | nil => simp
  | cons f fields ih =>
    rw [List.filterMap_cons, ih]
    unfold Query.pivotCondition? hasVerb columnAt
    cases hcolumn : s.column verbField with
    | error e => cases s.isPivot f.field <;> simp [Except.toOption]
    | ok column => cases hpivot : s.isPivot f.field <;> simp [hpivot, Except.toOption]

end Scope

namespace Query

variable {q : Query} {comparisons : List Comparison} {meaning : Assignment → Bool}

theorem Says.compareAll (cs : List Comparison) (h : q.Says comparisons meaning) :
    { q with
      condition := (cs.map Condition.compare).foldl (fun c node => c.add .and node) q.condition }.Says
      (comparisons ++ cs) fun a => meaning a && cs.all a.comparison := by
  constructor
  · rw [Condition.comparisons_foldl, h.comparisons_eq]
  · rw [Condition.fixedTexts_foldl (by simp [Condition.fixedTexts])]
    exact h.fixedTexts_eq
  · intro a
    rw [Condition.holds_foldl, h.holds_eq, Bool.and_right_comm]
    rfl

theorem alike_setGroup (q : Query) (list : GroupList) :
    Alike { q with group := some (list.map (onNoun q.scope)) } (q.setGroup list) := by
  unfold Query.setGroup
  dsimp only
  split
  · refine Alike.trans ?_ ((alike_fixupJoin _).trans (alike_checkJoins _))
    exact ⟨rfl, rfl, rfl, rfl⟩
  · refine Alike.trans ?_ (alike_checkJoins _)
    exact ⟨rfl, rfl, rfl, rfl⟩

/-- **Groups add a comparison with each milestone type among them.** -/
theorem Says.setGroup (h : q.Says comparisons meaning) (list : GroupList) :
    (q.setGroup list).Says (comparisons ++ q.scope.pivotComparisons (some list))
        (fun a => meaning a && (q.scope.pivotComparisons (some list)).all a.comparison) ∧
      Alike { q with group := some (list.map (onNoun q.scope)) } (q.setGroup list) := by
  refine ⟨?_, alike_setGroup q list⟩
  have hall := h.compareAll (q.scope.pivotComparisons (some list))
  have hconditions : list.fields.filterMap (pivotCondition? q.scope) =
      (q.scope.pivotComparisons (some list)).map Condition.compare :=
    q.scope.filterMap_pivotCondition? list.fields
  unfold Query.setGroup
  rw [hconditions]
  have hgrouped : { q with
      condition := ((q.scope.pivotComparisons (some list)).map Condition.compare).foldl
        (fun c node => c.add .and node) q.condition
      group := some (list.map (onNoun q.scope)) }.Says _ _ :=
    ⟨hall.comparisons_eq, hall.fixedTexts_eq, hall.holds_eq⟩
  dsimp only
  split
  · exact hgrouped.fixupJoin.checkJoins
  · exact hgrouped.checkJoins

/-- A query before anything is asked of it but a condition. -/
def unjoined (s : Scope) (actor : Actor) (index : Int) (source : String) (condition : Condition)
    (column : Column) : Query where
  scope := s
  source := source
  actor := actor
  index := index
  condition := condition
  sortColumn := column
  sortDirection := .ascending
  joined := false
  group := none
  extra := .none
  random := false

theorem Says.unjoined (s : Scope) (actor : Actor) (index : Int) (source : String) (column : Column)
    {condition : Condition} (h : condition.fixedTexts = []) :
    (unjoined s actor index source condition column).Says condition.comparisons condition.holds :=
  ⟨rfl, h, fun a => by simp [Query.unjoined, joinTexts]⟩

/-- A query starts from its actor, in the order of time. -/
theorem exists_unjoined_of_start {s : Scope} {actor : Actor} {index : Int} {source : String}
    (h : start s actor index source = .ok q) :
    ∃ column, s.column s.context.defaultSort = .ok column ∧
      (actor ≠ .anyone → ∃ column, s.column actorField = .ok column) ∧
      q = (unjoined s actor index source
        (.joined .and ((s.actorComparisons actor).map .compare)) column).checkJoins := by
  obtain ⟨column, hcolumn, h⟩ := bind_eq_ok.mp h
  refine ⟨column, hcolumn, ?_⟩
  cases actor with
  | anyone => exact ⟨fun hne => absurd rfl hne, (Except.ok.inj h).symm⟩
  | named name =>
    obtain ⟨actorColumn, hactor, h⟩ := bind_eq_ok.mp h
    rw [Scope.actorComparisons, Scope.columnAt_eq hactor]
    exact ⟨fun _ => ⟨actorColumn, hactor⟩, (Except.ok.inj h).symm⟩

/-- **A query starts from the comparison with its actor**, if one is named. -/
theorem start_eq_ok {s : Scope} {actor : Actor} {index : Int} {source : String}
    (h : start s actor index source = .ok q) :
    q.Says (s.actorComparisons actor) (fun a => (s.actorComparisons actor).all a.comparison) ∧
      q.scope = s ∧ q.actor = actor ∧ q.group = none ∧
      (actor ≠ .anyone → ∃ column, s.column actorField = .ok column) := by
  obtain ⟨column, -, hcolumn, rfl⟩ := exists_unjoined_of_start h
  have hfixed :
      (Condition.joined .and ((s.actorComparisons actor).map .compare)).fixedTexts = [] := by
    cases actor <;> rfl
  have hsay := Says.unjoined s actor index source column hfixed
  have halike := alike_checkJoins (unjoined s actor index source
    (.joined .and ((s.actorComparisons actor).map .compare)) column)
  refine ⟨hsay.checkJoins.congr ?_ fun a => ?_, halike.scope, halike.actor, halike.group, hcolumn⟩
  · cases actor <;> rfl
  · cases actor <;> simp [Scope.actorComparisons, Condition.holds, Condition.allHold, Condition.isEmpty]

end Query

/-! ## Terms state no equalities -/

namespace TermPart

theorem fixedTexts_together (parts : List Condition) :
    (TermLevel.together parts).fixedTexts = Condition.fixedTextsIn parts := by
  rcases parts with _ | ⟨part, _ | ⟨next, rest⟩⟩ <;>
    simp [TermLevel.together, Condition.fixedTexts, Condition.fixedTextsIn]

theorem fixedTexts_either (alternatives : List Condition) :
    (either alternatives).fixedTexts = Condition.fixedTextsIn alternatives := by
  rcases alternatives with _ | ⟨first, _ | ⟨next, rest⟩⟩ <;>
    simp [either, Condition.fixedTexts, Condition.fixedTextsIn]

mutual

theorem fixedTexts_part (bind : String → Comparison) : (part : TermPart) →
    (part.condition bind).fixedTexts = []
  | .term token => rfl
  | .group alternatives => by
    rw [condition, fixedTexts_either, fixedTexts_alternatives bind alternatives]

theorem fixedTexts_parts (bind : String → Comparison) : (parts : List TermPart) →
    Condition.fixedTextsIn (partsConditions bind parts) = []
  | [] => rfl
  | part :: parts => by
    rw [partsConditions, Condition.fixedTextsIn, fixedTexts_part bind part,
      fixedTexts_parts bind parts]
    rfl

theorem fixedTexts_alternatives (bind : String → Comparison) : (tree : TermTree) →
    Condition.fixedTextsIn (treeConditions bind tree) = []
  | [] => rfl
  | parts :: tree => by
    rw [treeConditions, Condition.fixedTextsIn, fixedTexts_together, fixedTexts_parts bind parts,
      fixedTexts_alternatives bind tree]
    rfl

end

end TermPart

theorem TermTree.fixedTexts_condition (bind : String → Comparison) (tree : TermTree) :
    (tree.condition bind).fixedTexts = [] := by
  rw [TermTree.condition, TermPart.fixedTexts_either, TermPart.fixedTexts_alternatives]

/-! ## The query of one fragment -/

/-- The scope that the words of a query are read in. -/
def QueryWords.scope (w : QueryWords) (c : Catalog) (context : Context) : Scope :=
  ⟨c, context, w.game⟩

/-- The comparisons that words with a tree of terms ask for: with the actor, then those of the terms
from left to right, then with the milestone types of the groups. -/
def QueryWords.comparisons (w : QueryWords) (s : Scope) (tree : TermTree) : List Comparison :=
  s.actorComparisons w.actor ++ (TermPart.treeTerms tree).map s.comparison ++
    s.pivotComparisons w.group

/-- What words with a tree of terms ask of a row, given what its comparisons are. -/
def QueryWords.meaning (w : QueryWords) (s : Scope) (tree : TermTree) (a : Assignment) : Bool :=
  (s.actorComparisons w.actor).all a.comparison &&
    tree.holds (fun token => a.comparison (s.comparison token)) &&
    (s.pivotComparisons w.group).all a.comparison

/-- **A query is built from words** with a tree of their terms: it reads the rows of their actor in
their scope and groups, under what they ask for. -/
structure Query.BuiltFrom (w : QueryWords) (s : Scope) (tree : TermTree) (extra : ExtraList)
    (q : Query) : Prop where
  scope : q.scope = s
  actor : q.actor = w.actor
  group : q.group = w.group.map fun list => list.map (Query.onNoun s)
  extra : q.extra = extra
  derives : tree.Derives s w.terms
  actorColumn : w.actor ≠ .anyone → ∃ column, s.column actorField = .ok column
  means : q.Says (w.comparisons s tree) (w.meaning s tree)

theorem addGroup_eq_ok {q q' : Query} {extra : ExtraList} {group : Option GroupList}
    {comparisons : List Comparison} {meaning : Assignment → Bool} (hnone : q.group = none)
    (hq : q.Says comparisons meaning) (h : addGroup q extra group = .ok q') :
    q'.Says (comparisons ++ q.scope.pivotComparisons group)
        (fun a => meaning a && (q.scope.pivotComparisons group).all a.comparison) ∧
      q'.scope = q.scope ∧ q'.actor = q.actor ∧
      q'.group = group.map fun list => list.map (Query.onNoun q.scope) := by
  cases group with
  | none =>
    obtain rfl : q = q' := Except.ok.inj h
    have hpivots : q.scope.pivotComparisons none = [] := by
      simp [Scope.pivotComparisons, Scope.pivots]
    rw [hpivots]
    exact ⟨hq.congr (by simp) fun a => by simp, rfl, rfl, hnone⟩
  | some list =>
    unfold addGroup at h
    split at h
    · rename_i heq
      cases heq
    · rename_i heq
      cases heq
      split at h
      · cases h
      · obtain rfl : q.setGroup list = q' := Except.ok.inj h
        obtain ⟨hsay, halike⟩ := hq.setGroup list
        exact ⟨hsay, halike.scope, halike.actor, halike.group⟩

/-- **A query is built in steps**: to its start are added its terms, its row sorts, its groups and the
extra columns. -/
theorem exists_steps_of_build {c : Catalog} {context : Context} {defaultName : String}
    {extra : ExtraList} {tokens : List String} {words : QueryWords} {q : Query}
    (hwords : QueryWords.read c context defaultName tokens = .ok words)
    (h : buildQuery c context defaultName extra tokens = .ok q) :
    ∃ source start condition sorted grouped,
      Query.start (words.scope c context) words.actor words.index source = .ok start ∧
      readTerms (words.scope c context) words.terms = .ok condition ∧
      addRowSorts (addTerms (start.setRandom words.random) condition) words.rowSorts = .ok sorted ∧
      addGroup sorted extra words.group = .ok grouped ∧ q = grouped.setExtra extra := by
  obtain ⟨found, hfound, h⟩ := bind_eq_ok.mp h
  obtain rfl := Except.ok.inj (hfound.symm.trans hwords)
  obtain ⟨start, hstart, h⟩ := bind_eq_ok.mp h
  obtain ⟨condition, hterms, h⟩ := bind_eq_ok.mp h
  obtain ⟨sorted, hsorts, h⟩ := bind_eq_ok.mp h
  obtain ⟨grouped, hgroup, h⟩ := bind_eq_ok.mp h
  exact ⟨_, start, condition, sorted, grouped, hstart, hterms, hsorts, hgroup,
    (Except.ok.inj h).symm⟩

/-- **A built query says what its words ask for**: its actor, its terms by their tree, and the
milestone types among its groups. -/
theorem buildQuery_eq_ok {c : Catalog} {context : Context} {defaultName : String}
    {extra : ExtraList} {tokens : List String} {q : Query}
    (h : buildQuery c context defaultName extra tokens = .ok q) :
    ∃ words tree, QueryWords.read c context defaultName tokens = .ok words ∧
      q.BuiltFrom words (words.scope c context) tree extra := by
  obtain ⟨words, hwords, -⟩ := bind_eq_ok.mp h
  obtain ⟨source, start, condition, sorted, grouped, hstart, hterms, hsorts, hgroup, rfl⟩ :=
    exists_steps_of_build hwords h
  set s := words.scope c context
  obtain ⟨tree, htree, rfl⟩ := readTerms_eq_ok_iff.mp hterms
  obtain ⟨hsay, hscope, hactor, hnone, hcolumn⟩ := Query.start_eq_ok hstart
  have hrandom : (start.setRandom words.random).Says _ _ :=
    ⟨hsay.comparisons_eq, hsay.fixedTexts_eq, hsay.holds_eq⟩
  obtain ⟨hterm, halike⟩ := hrandom.addTerms (TermTree.fixedTexts_condition s.comparison tree)
  obtain ⟨hsorted, halike'⟩ := hterm.addRowSorts words.rowSorts hsorts
  have hsame := halike.trans halike'
  obtain ⟨hgrouped, hscope', hactor', hgroup'⟩ :=
    addGroup_eq_ok (hsame.group.trans hnone) hsorted hgroup
  have hs : sorted.scope = s := hsame.scope.trans hscope
  rw [hs] at hgrouped hscope' hgroup'
  have hextra := Query.alike_checkJoins { grouped with extra := extra }
  refine ⟨words, tree, hwords, ?_⟩
  constructor
  · exact hextra.scope.trans hscope'
  · exact hextra.actor.trans (hactor'.trans (hsame.actor.trans hactor))
  · exact hextra.group.trans hgroup'
  · exact hextra.extra
  · exact htree
  · exact hcolumn
  · refine (hgrouped.setExtra extra).congr ?_ fun a => ?_
    · rw [comparisons_condition]
      rfl
    · rw [TermTree.holds_condition a s.comparison htree.fits]
      rfl

/-! ## The queries of a command -/

namespace CommandWords

/-- The tokens of the first fragment. -/
def first (w : CommandWords) : List String := (fragments w.tokens).1

/-- The tokens of each further fragment. -/
def others (w : CommandWords) : List (List String) := (fragments w.tokens).2

/-- The tokens that each query is built from: those of the first fragment, and with each further one
behind them. -/
def queryTokens (w : CommandWords) : List (List String) := w.first :: w.others.map (w.first ++ ·)

/-- The sorts that are asked for, or that stand for none beside several fragments. -/
def sharedSorts (w : CommandWords) : Except QueryError (List SortCondition) :=
  if w.others.isEmpty then .ok w.sorts else ratioSorts w.extra w.sorts

/-- The extra columns that all queries show. -/
def sharedExtra (w : CommandWords) (s : Scope) : Except QueryError ExtraList :=
  if w.others.isEmpty then .ok w.extra else ratioExtra s w.first w.extra

end CommandWords

/-- **A group is parsed from the words of a command**: each query is built from its tokens with the
extra columns of the group. -/
structure QueryGroup.ParsedFrom (c : Catalog) (context : Context) (defaultName : String)
    (w : CommandWords) (g : QueryGroup) : Prop where
  primary : buildQuery c context defaultName g.extra w.first = .ok g.primary
  others : List.Forall₂
    (fun fragment q => buildQuery c context defaultName g.extra (w.first ++ fragment) = .ok q)
    w.others g.others
  extra : w.sharedExtra (defaultScope c context) = .ok g.extra
  aggregate : g.others ≠ [] → ∀ q ∈ g.queries, q.isAggregate = true
  filters : g.filters = w.filters

/-- The queries of a command built one by one, under its sorts and with its extra columns. -/
def QueryGroup.build (c : Catalog) (context : Context) (defaultName : String) (tokens : List String)
    (w : CommandWords) (sorts : List SortCondition) (extra : ExtraList) :
    Except QueryError QueryGroup := do
  let primary ← buildQuery c context defaultName extra w.first
  let queries ← w.others.mapM fun fragment =>
    buildQuery c context defaultName extra (w.first ++ fragment)
  if !queries.isEmpty && !(primary :: queries).all Query.isAggregate then
    throw (.mixedFragments (joinWith " " tokens))
  return ⟨primary, queries, reportSorts extra primary.group sorts, w.filters, extra,
    describe primary.actor (joinWith " " tokens)⟩

/-- A command is parsed by reading its words, choosing its sorts and its extra columns, and building
its queries. -/
theorem QueryGroup.parse_eq (c : Catalog) (context : Context) (defaultName : String)
    (tokens : List String) :
    QueryGroup.parse c context defaultName tokens =
      CommandWords.read (defaultScope c context) tokens >>= fun w =>
        w.sharedSorts >>= fun sorts => w.sharedExtra (defaultScope c context) >>= fun extra =>
          QueryGroup.build c context defaultName tokens w sorts extra := by
  unfold QueryGroup.parse CommandWords.sharedSorts CommandWords.sharedExtra
  refine congrArg (CommandWords.read (defaultScope c context) tokens >>= ·) (funext fun w => ?_)
  have hfragments : fragments w.tokens = (w.first, w.others) := rfl
  rw [hfragments]
  by_cases hempty : w.others.isEmpty = true
  · simp only [hempty, if_true]
    rfl
  · simp only [hempty]
    rfl

/-- **The queries of a command are built one by one.** -/
theorem parse_eq_ok {c : Catalog} {context : Context} {defaultName : String}
    {tokens : List String} {g : QueryGroup}
    (h : QueryGroup.parse c context defaultName tokens = .ok g) :
    ∃ words, CommandWords.read (defaultScope c context) tokens = .ok words ∧
      g.ParsedFrom c context defaultName words := by
  rw [QueryGroup.parse_eq] at h
  obtain ⟨words, hwords, h⟩ := bind_eq_ok.mp h
  obtain ⟨sorts, -, h⟩ := bind_eq_ok.mp h
  obtain ⟨extra, hextra, h⟩ := bind_eq_ok.mp h
  obtain ⟨primary, hprimary, h⟩ := bind_eq_ok.mp h
  obtain ⟨queries, hqueries, h⟩ := bind_eq_ok.mp h
  have hothers := mapM_eq_ok.mp hqueries
  refine ⟨words, hwords, ?_⟩
  by_cases hmixed : (!queries.isEmpty && !(primary :: queries).all Query.isAggregate) = true
  · simp only [hmixed, if_true] at h
    cases h
  · simp only [hmixed] at h
    obtain rfl := Except.ok.inj h
    constructor
    · exact hprimary
    · exact hothers
    · exact hextra
    · intro hne q hq
      have hall : (primary :: queries).all Query.isAggregate = true := by
        by_contra hall
        exact hmixed (by simp [hne, hall])
      exact List.all_eq_true.mp hall q hq
    · rfl

/-- A command whose words are read is parsed by building its queries. -/
theorem QueryGroup.parse_eq_build {c : Catalog} {context : Context} (defaultName : String)
    {tokens : List String} {w : CommandWords} {sorts : List SortCondition} {extra : ExtraList}
    (hread : CommandWords.read (defaultScope c context) tokens = .ok w)
    (hsorts : w.sharedSorts = .ok sorts)
    (hextra : w.sharedExtra (defaultScope c context) = .ok extra) :
    QueryGroup.parse c context defaultName tokens =
      QueryGroup.build c context defaultName tokens w sorts extra := by
  rw [QueryGroup.parse_eq, hread]
  change (w.sharedSorts >>= fun sorts => w.sharedExtra (defaultScope c context) >>= fun extra =>
    QueryGroup.build c context defaultName tokens w sorts extra) = _
  rw [hsorts, hextra]
  rfl

/-- A command is parsed if its queries are built and all of them are aggregate. -/
theorem parse_of_built {c : Catalog} {context : Context} {defaultName : String}
    {tokens : List String} {w : CommandWords} {sorts : List SortCondition} {extra : ExtraList}
    {primary : Query} {queries : List Query}
    (hread : CommandWords.read (defaultScope c context) tokens = .ok w)
    (hsorts : w.sharedSorts = .ok sorts)
    (hextra : w.sharedExtra (defaultScope c context) = .ok extra)
    (hprimary : buildQuery c context defaultName extra w.first = .ok primary)
    (hqueries : (w.others.mapM fun fragment =>
      buildQuery c context defaultName extra (w.first ++ fragment)) = .ok queries)
    (haggregate : ∀ q ∈ primary :: queries, q.isAggregate = true) :
    QueryGroup.parse c context defaultName tokens =
      .ok ⟨primary, queries, reportSorts extra primary.group sorts, w.filters, extra,
        describe primary.actor (joinWith " " tokens)⟩ := by
  rw [QueryGroup.parse_eq_build defaultName hread hsorts hextra, QueryGroup.build, hprimary, hqueries]
  dsimp only [bind, Except.bind]
  rw [List.all_eq_true.mpr haggregate, Bool.not_true, Bool.and_false]
  rfl

theorem QueryGroup.ParsedFrom.queries {c : Catalog} {context : Context} {defaultName : String}
    {w : CommandWords} {g : QueryGroup} (h : g.ParsedFrom c context defaultName w) :
    List.Forall₂ (fun tokens q => buildQuery c context defaultName g.extra tokens = .ok q)
      w.queryTokens g.queries :=
  .cons h.primary (List.forall₂_map_left_iff.mpr h.others)

end GameLog
