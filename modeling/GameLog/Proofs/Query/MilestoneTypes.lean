import GameLog.Proofs.Query.GroupNames
import GameLog.Proofs.Query.View

/-!
# Milestone types among the groups

A report may be grouped by a type of milestones. Its rows are then grouped by the object of the
milestone, and of all milestones only those of that type are kept. Whether a name stands for a type is
decided by what is behind the short name of a table in front of it; but what milestones are compared with
is the whole canonical name. So the type itself is compared with where no short name leads it, and where
one does no milestone is of the type that is looked for.

Main statements:
* `eq_typeNamed_iff`: a name is the type that it stands for iff no short name of a table leads it;
* `setGroup_eq_or`: groups are added, and games are joined at most;
* `grouped_by_types`: by which columns the groups of a clause are told apart, which comparisons they add,
  and for which names these are the comparisons with the types.
-/

namespace GameLog

open GameLog.Text

/-! ## The type that a name stands for -/

namespace Scope

variable {s : Scope} {name : String}

/-- The milestone type that a name stands for: a short name of a table is no part of it. -/
def typeNamed (name : String) : String := (splitName name).2

/-- A name is the type that it stands for iff no short name of a table leads it. -/
theorem eq_typeNamed_iff : name = typeNamed name ↔ (splitName name).1 = none := by
  have hname := eq_of_splitName name
  cases htable : (splitName name).1 with
  | none =>
    rw [htable] at hname
    simpa [typeNamed] using hname
  | some table =>
    rw [htable] at hname
    have hlength := congrArg String.length hname
    simp only [Option.map_some, Option.getD_some, String.length_append] at hlength
    have hcolon : (":" : String).length = 1 := by decide
    refine iff_of_false (fun hsame => ?_) (by simp)
    rw [typeNamed] at hsame
    rw [← hsame] at hlength
    omega

/-- What groups by a milestone type stands for one of the catalog. -/
theorem contains_of_isPivot (h : s.isPivot name = true) :
    s.catalog.milestoneTypes.contains (typeNamed name) = true := by
  unfold isPivot at h
  split at h
  · rename_i context hresolve
    have howner := ownerIn?_of_resolve? hresolve
    unfold ownerIn? at howner
    split at howner
    · cases howner
    · split at howner
      · rename_i htype
        unfold Catalog.isPivot at htype
        split at htype
        · cases htype
        · exact htype
      · cases howner
  · cases h

/-- The comparison that keeps milestones whose type is called by a name. -/
def typeComparison (verb : FieldSpec) (name : String) : Comparison :=
  ⟨columnOf .milestone verb, .eq, .text name⟩

theorem typeComparison_eq_iff {verb : FieldSpec} :
    typeComparison verb name = typeComparison verb (typeNamed name) ↔
      (splitName name).1 = none := by
  rw [← eq_typeNamed_iff]
  simp [typeComparison]

theorem column_verb {verb : FieldSpec} (hs : s.context = .milestone)
    (hverb : s.catalog.fieldIn? .milestone verbField = some verb) :
    s.column verbField = .ok (columnOf .milestone verb) :=
  column_of_fieldIn? hs hverb (by decide)

theorem pivotComparisons_eq {verb : FieldSpec} (hs : s.context = .milestone)
    (hverb : s.catalog.fieldIn? .milestone verbField = some verb) (group : Option GroupList) :
    s.pivotComparisons group = (s.pivots group).map fun f => typeComparison verb f.field := by
  have hcolumn := column_verb hs hverb
  have hhas : s.hasVerb = true := by
    rw [hasVerb, hcolumn]
    rfl
  rw [pivotComparisons, if_pos hhas, columnAt_eq hcolumn]
  rfl

end Scope

/-! ## Adding groups -/

namespace Query

theorem checkJoins_eq_or (q : Query) : q.checkJoins = q ∨ q.checkJoins = q.fixupJoin := by
  unfold checkJoins
  split
  · exact .inl rfl
  · split
    · exact .inr rfl
    · exact .inl rfl

theorem fixupJoin_fixupJoin (q : Query) : q.fixupJoin.fixupJoin = q.fixupJoin := by
  cases hfar : q.scope.context.fallback? with
  | none => rw [fixupJoin_of_none hfar, fixupJoin_of_none hfar]
  | some far =>
    cases hjoined : q.joined with
    | true => rw [fixupJoin_joined hjoined, fixupJoin_joined hjoined]
    | false =>
      rw [fixupJoin_of_fallback hjoined hfar]
      exact fixupJoin_joined rfl

/-- **Groups are added**, and games are joined at most. -/
theorem setGroup_eq_or (q : Query) (list : GroupList) :
    q.setGroup list = q.grouped list ∨ q.setGroup list = (q.grouped list).fixupJoin := by
  rw [setGroup_eq]
  split
  · rcases checkJoins_eq_or (q.grouped list).fixupJoin with hkept | hjoined
    · exact .inr hkept
    · exact .inr (hjoined.trans (fixupJoin_fixupJoin _))
  · exact checkJoins_eq_or (q.grouped list)

theorem comparisons_fixupJoin (q : Query) :
    q.fixupJoin.condition.comparisons = q.condition.comparisons := by
  unfold fixupJoin
  split
  · simp [Condition.comparisons_add, Condition.comparisons]
  · rfl

/-- The equality that a step has joined a query by, if it has. -/
def joinedBy (q q' : Query) : List String := if q.joined then [] else q'.joinTexts

theorem holds_fixupJoin (q : Query) (a : Assignment) :
    q.fixupJoin.condition.holds a =
      (q.condition.holds a && (q.joinedBy q.fixupJoin).all a.fixed) := by
  cases hjoined : q.joined with
  | true => simp [joinedBy, hjoined, fixupJoin_joined hjoined]
  | false =>
    cases hfar : q.scope.context.fallback? with
    | none => simp [joinedBy, joinTexts, hjoined, fixupJoin_of_none hfar]
    | some far =>
      rw [fixupJoin_of_fallback hjoined hfar, Condition.holds_add_and]
      simp [joinedBy, joinTexts, hjoined, hfar, Condition.holds]

theorem joinedBy_of_joined_eq {q q' : Query} (h : q.joined = q'.joined) : q.joinedBy q' = [] := by
  rw [joinedBy, joinTexts, ← h]
  cases q.joined <;> rfl

theorem condition_grouped (q : Query) (list : GroupList) :
    (q.grouped list).condition = ((q.scope.pivotComparisons (some list)).map Condition.compare).foldl
      (fun c node => c.add .and node) q.condition := by
  rw [grouped, Scope.filterMap_pivotCondition?]
  rfl

/-- **Groups add a comparison for each milestone type among them**, and no other. -/
theorem comparisons_setGroup (q : Query) (list : GroupList) :
    (q.setGroup list).condition.comparisons =
      q.condition.comparisons ++ q.scope.pivotComparisons (some list) := by
  have hgrouped : (q.grouped list).condition.comparisons =
      q.condition.comparisons ++ q.scope.pivotComparisons (some list) := by
    rw [condition_grouped, Condition.comparisons_foldl]
  rcases setGroup_eq_or q list with hsame | hsame
  · rw [hsame, hgrouped]
  · rw [hsame, comparisons_fixupJoin, hgrouped]

/-- **What groups ask for is asked beside what was asked before**: the comparisons for the milestone
types among them, and the equality of the join if they join games. -/
theorem holds_setGroup (q : Query) (list : GroupList) (a : Assignment) :
    (q.setGroup list).condition.holds a =
      (q.condition.holds a && (q.scope.pivotComparisons (some list)).all a.comparison &&
        (q.joinedBy (q.setGroup list)).all a.fixed) := by
  have hgrouped : (q.grouped list).condition.holds a =
      (q.condition.holds a && (q.scope.pivotComparisons (some list)).all a.comparison) := by
    rw [condition_grouped, Condition.holds_foldl]
  rcases setGroup_eq_or q list with hsame | hsame
  · have hnone : q.joinedBy (q.grouped list) = [] := joinedBy_of_joined_eq rfl
    rw [hsame, hgrouped, hnone, List.all_nil, Bool.and_true]
  · have hjoined : (q.grouped list).joinedBy = q.joinedBy := rfl
    rw [hsame, holds_fixupJoin, hgrouped, hjoined]

theorem onNoun_of_column {s : Scope} {column : Column} (hverb : s.column verbField = .ok column)
    (f : GroupField) :
    onNoun s f = if s.isPivot f.field then { f with field := nounField } else f := by
  unfold onNoun pivotCondition?
  rw [hverb]
  cases s.isPivot f.field <;> rfl

end Query

/-! ## The groups of a clause -/

/-- **A query is grouped by a list of fields**: milestone types among them give way to the object of the
milestone, all others keep their columns, and the condition asks for the type by the name it has in the
list, beside what was asked before and the equality of a join. -/
structure Query.GroupedBy (q : Query) (list : GroupList) (verb noun : FieldSpec) (st : Statement) :
    Prop where
  fields : (q.setGroup list).groupFields = list.fields.map fun f =>
    if q.scope.isPivot f.field then { f with field := nounField } else f
  columns : List.Forall₂
    (fun f column => if q.scope.isPivot f.field then column = Scope.columnOf .milestone noun
      else q.scope.column f.field = .ok column)
    list.fields st.groupBy
  comparisons : st.condition.comparisons = q.condition.comparisons ++
    (q.scope.pivots (some list)).map fun f => Scope.typeComparison verb f.field
  holds : ∀ a, st.condition.holds a = (q.condition.holds a &&
    ((q.scope.pivots (some list)).map fun f => Scope.typeComparison verb f.field).all a.comparison &&
    (q.joinedBy (q.setGroup list)).all a.fixed)

/-- A query whose statement is built is grouped by the fields of its clause. -/
theorem Query.groupedBy_of_selectGroups {q : Query} (hs : q.scope.context = .milestone)
    {verb noun : FieldSpec} (hverb : q.scope.catalog.fieldIn? .milestone verbField = some verb)
    (hnoun : q.scope.catalog.fieldIn? .milestone nounField = some noun) {list : GroupList}
    {st : Statement} (h : (q.setGroup list).selectGroups = .ok st) : q.GroupedBy list verb noun st := by
  have hverbColumn := Scope.column_verb hs hverb
  have hnounColumn : q.scope.column nounField = .ok (Scope.columnOf .milestone noun) :=
    Scope.column_of_fieldIn? hs hnoun (by decide)
  have hfields : (q.setGroup list).groupFields = list.fields.map fun f =>
      if q.scope.isPivot f.field then { f with field := nounField } else f := by
    rw [groupFields_setGroup]
    exact List.map_congr_left fun f _ => onNoun_of_column hverbColumn f
  have hcondition : st.condition = (q.setGroup list).condition := by
    obtain ⟨columns, -, hst⟩ := bind_eq_ok.mp h
    rw [← Except.ok.inj hst]
  have hpivots := Scope.pivotComparisons_eq hs hverb (some list)
  constructor
  · exact hfields
  · have hcolumns := mapM_eq_ok.mp (selectGroups_eq_ok h).1
    rw [hfields, (q.alike_setGroup list).scope, List.forall₂_map_left_iff] at hcolumns
    refine hcolumns.imp fun f column hcolumn => ?_
    by_cases hpivot : q.scope.isPivot f.field = true
    · rw [if_pos hpivot] at hcolumn ⊢
      exact Except.ok.inj (hcolumn.symm.trans hnounColumn)
    · rwa [if_neg hpivot] at hcolumn ⊢
  · rw [hcondition, comparisons_setGroup, hpivots]
  · intro a
    rw [hcondition, holds_setGroup, hpivots]

/-- **A report about milestones is grouped by what its clause names.** The items of a clause that is read
name its fields, in whatever spelling. Each milestone type among these stands for one of the catalog, and
a query is grouped by the object of the milestone in its place; the other fields keep their columns. The
condition asks for each type by the canonical name in the clause, and nothing for the other fields. It asks
for the types of the catalog iff no short name of a table leads one of those names. -/
theorem grouped_by_types {q : Query} (hs : q.scope.context = .milestone) {verb noun : FieldSpec}
    (hverb : q.scope.catalog.fieldIn? .milestone verbField = some verb)
    (hnoun : q.scope.catalog.fieldIn? .milestone nounField = some noun) {clause : String} {n m : Nat}
    {list : GroupList} (h : (GroupList.parse q.scope clause).run n = (.ok list, m)) :
    (∃ items, groupItems? clause = some items ∧
      List.Forall₂ (fun item f => q.scope.canonical item.field = .ok f.field) items list.fields) ∧
    (∀ f ∈ q.scope.pivots (some list),
      q.scope.catalog.milestoneTypes.contains (Scope.typeNamed f.field) = true) ∧
    ∃ st, (q.setGroup list).selectGroups = .ok st ∧ q.GroupedBy list verb noun st ∧
      (st.condition.comparisons = q.condition.comparisons ++ (q.scope.pivots (some list)).map
          (fun f => Scope.typeComparison verb (Scope.typeNamed f.field)) ↔
        ∀ f ∈ q.scope.pivots (some list), (Scope.splitName f.field).1 = none) := by
  refine ⟨?_, fun f hf => ?_, ?_⟩
  · obtain ⟨items, hitems, hnames, -⟩ := names_of_parse h
    exact ⟨items, hitems, hnames.imp fun item f hname => hname.canonical⟩
  · exact Scope.contains_of_isPivot (List.mem_filter.mp hf).2
  · obtain ⟨st, hst⟩ := exists_groups h hverb hnoun rfl
    have hgrouped := Query.groupedBy_of_selectGroups hs hverb hnoun hst
    refine ⟨st, hst, hgrouped, ?_⟩
    rw [hgrouped.comparisons, List.append_cancel_left_eq, List.map_inj_left]
    exact forall₂_congr fun f _ => Scope.typeComparison_eq_iff

/-- Two milestone types in capital letters, one of them behind the short name of its table: rows are grouped
by the object twice, and one comparison is with the type. -/
theorem builtin_grouped_by_types :
    let s := defaultScope .builtin .milestone
    ∃ list q st, (GroupList.parse s "s=MST:Rune,-UNIQ").fresh = .ok list ∧
      Query.start s .anyone (-1) "*" = .ok q ∧ (q.setGroup list).selectGroups = .ok st ∧
      st.groupBy = [⟨some "mst", "noun"⟩, ⟨some "mst", "noun"⟩] ∧
      st.condition.comparisons =
        [⟨⟨some "mst", "verb"⟩, .eq, .text "mst:rune"⟩, ⟨⟨some "mst", "verb"⟩, .eq, .text "uniq"⟩] := by
  intro s
  let first : GroupField := ⟨.descending, "mst:rune", false, some .text⟩
  let second : GroupField := ⟨.ascending, "uniq", false, some .text⟩
  let list : GroupList := ⟨first, some second, "s=MST:Rune,-UNIQ"⟩
  let verb : FieldSpec := ⟨"verb", .text, true, "verb"⟩
  let noun : FieldSpec := ⟨"noun", .text, true, "noun"⟩
  have hparse : (GroupList.parse s "s=MST:Rune,-UNIQ").fresh = .ok list := by decide +kernel
  have hspecs : s.catalog.fieldIn? .milestone verbField = some verb ∧
      s.catalog.fieldIn? .milestone nounField = some noun := by decide +kernel
  have hpivots : s.isPivot "mst:rune" = true ∧ s.isPivot "uniq" = true := by decide +kernel
  have hstart : (Query.start s .anyone (-1) "*").toOption.map (fun q => q.condition.comparisons) =
      some [] := by decide +kernel
  obtain ⟨q, hq, hnone⟩ := exists_ok_of_map hstart
  obtain ⟨-, hscope, -⟩ := Query.start_eq_ok hq
  have hcontext : q.scope.context = .milestone := by rw [hscope]; rfl
  have hread : (GroupList.parse q.scope "s=MST:Rune,-UNIQ").run 0 =
      (.ok list, ((GroupList.parse s "s=MST:Rune,-UNIQ").run 0).2) := by
    rw [hscope]
    exact Prod.ext hparse rfl
  rw [← hscope] at hspecs hpivots
  obtain ⟨-, -, st, hst, hgrouped, -⟩ := grouped_by_types hcontext hspecs.1 hspecs.2 hread
  have hpivoted : q.scope.pivots (some list) = [first, second] := by
    simp [Scope.pivots, GroupList.fields, list, first, second, hpivots]
  refine ⟨list, q, st, hparse, hq, hst, ?_, ?_⟩
  · obtain ⟨c, cs, hc, hrest, hcolumns⟩ := List.forall₂_cons_left_iff.mp hgrouped.columns
    obtain ⟨c', cs', hc', hnil, rfl⟩ := List.forall₂_cons_left_iff.mp hrest
    obtain rfl := List.forall₂_nil_left_iff.mp hnil
    rw [if_pos hpivots.1] at hc
    rw [if_pos hpivots.2] at hc'
    rw [hcolumns, hc, hc']
    rfl
  · rw [hgrouped.comparisons, hnone, hpivoted]
    rfl

/-- **A short name of a table in front of a type** is looked for in the type of milestones: `mst:rune` is
read as the type `rune`, and no milestone of that type is kept. -/
theorem rune_led_by_table :
    ∃ g st, QueryGroup.parse .builtin .milestone "*" ["s=mst:rune"] = .ok g ∧
      g.primary.selectGroups = .ok st ∧ st.groupBy = [⟨some "mst", "noun"⟩] ∧
      st.condition.comparisons = [⟨⟨some "mst", "verb"⟩, .eq, .text "mst:rune"⟩] ∧
      Catalog.builtin.milestoneTypes.contains "rune" = true ∧
      Catalog.builtin.milestoneTypes.contains "mst:rune" = false := by
  have hparse : (QueryGroup.parse .builtin .milestone "*" ["s=mst:rune"]).toOption.map (fun g =>
      g.primary.selectGroups.toOption.map fun st => (st.groupBy, st.condition.comparisons)) =
      some (some ([⟨some "mst", "noun"⟩], [⟨⟨some "mst", "verb"⟩, .eq, .text "mst:rune"⟩])) := by
    decide +kernel
  have htypes : Catalog.builtin.milestoneTypes.contains "rune" = true ∧
      Catalog.builtin.milestoneTypes.contains "mst:rune" = false := by decide +kernel
  obtain ⟨g, hg, hgroups⟩ := exists_ok_of_map hparse
  obtain ⟨st, hst, hshown⟩ := exists_ok_of_map hgroups
  exact ⟨g, st, hg, hst, congrArg Prod.fst hshown, congrArg Prod.snd hshown, htypes⟩

end GameLog
