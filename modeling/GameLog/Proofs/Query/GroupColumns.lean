import GameLog.Proofs.Query.Shape

/-!
# Columns to group by

What a query groups by is looked up twice: when its clause is read, and once more when its groups are
selected, after all queries were counted. Between the two a milestone type gives way to the object of
the milestone, so that the second look is at another name. It finds a column all the same, if the
catalog has the fields for the type and the object of milestones.

Main statements:
* `names_of_parse`: the items of a clause that is read name its fields, by which reports may be grouped;
* `exists_statements`: every query of a command has a statement for its groups.
-/

namespace GameLog

/-! ## Fields of a clause -/

theorem Naming.of_run_bind {α β : Type} {x : Naming α} {f : α → Naming β} {n m : Nat} {b : β}
    (h : (x >>= f).run n = (.ok b, m)) :
    ∃ a k, x.run n = (.ok a, k) ∧ (f a).run k = (.ok b, m) := by
  rw [run_bind] at h
  rcases hrun : x.run n with ⟨_ | a, k⟩
  · rw [hrun] at h
    cases h
  · rw [hrun] at h
    exact ⟨a, k, rfl, h⟩

theorem Naming.run_throw_bind {α β : Type} (e : QueryError) (f : α → Naming β) (n : Nat) :
    ((throw e : Naming α) >>= f).run n = (.error e, n) := rfl

theorem Naming.of_run_liftM {α : Type} {x : Except QueryError α} {n m : Nat} {a : α}
    (h : (liftM x : Naming α).run n = (.ok a, m)) : x = .ok a := by
  cases x with
  | error e => cases h
  | ok b =>
    cases h
    rfl

/-- **An item names a field to group by**: it is no function, and reports may be grouped by the field
of that canonical name. -/
structure ClauseItem.Names (s : Scope) (item : ClauseItem) (name : String) : Prop where
  plain : item.function = none
  canonical : s.canonical item.field = .ok name
  summarisable : s.summarisable name = true

/-- An item that is read names its field, and none of the names before it. -/
theorem names_of_groupField {s : Scope} {clause : String} {before : List String}
    {item : ClauseItem} {n m : Nat} {f : GroupField}
    (h : (groupField s clause before item).run n = (.ok f, m)) :
    item.Names s f.field ∧ f.field ∉ before := by
  unfold groupField at h
  split at h
  · obtain ⟨refused, k, -, h⟩ := Naming.of_run_bind h
    rw [Naming.run_throw_bind] at h
    cases h
  · rename_i hplain
    obtain ⟨field, k, hfield, h⟩ := Naming.of_run_bind h
    dsimp only at h
    split at h
    · rw [Naming.run_throw_bind] at h
      cases h
    · rename_i hbefore
      split at h
      · rename_i hsummarisable
        cases h
        exact ⟨⟨Option.eq_none_iff_forall_ne_some.mpr hplain, Naming.of_run_liftM hfield,
          hsummarisable⟩, hbefore⟩
      · rw [Naming.run_throw_bind] at h
        cases h

/-- **The items of a clause that is read name its fields**, and two of them do not name the same. -/
theorem names_of_parse {s : Scope} {clause : String} {n m : Nat} {list : GroupList}
    (h : (GroupList.parse s clause).run n = (.ok list, m)) :
    ∃ items, groupItems? clause = some items ∧
      List.Forall₂ (fun item f => item.Names s f.field) items list.fields ∧
      (list.fields.map GroupField.field).Nodup := by
  unfold GroupList.parse at h
  split at h
  · rename_i item hitems
    obtain ⟨first, k, hfirst, h⟩ := Naming.of_run_bind h
    cases h
    exact ⟨[item], hitems, .cons (names_of_groupField hfirst).1 .nil, by simp [GroupList.fields]⟩
  · rename_i item item' hitems
    obtain ⟨first, k, hfirst, h⟩ := Naming.of_run_bind h
    obtain ⟨second, k', hsecond, h⟩ := Naming.of_run_bind h
    cases h
    obtain ⟨hname, hother⟩ := names_of_groupField hsecond
    refine ⟨[item, item'], hitems, .cons (names_of_groupField hfirst).1 (.cons hname .nil), ?_⟩
    simpa [GroupList.fields, eq_comm] using hother
  · cases h

/-- **Reports may be grouped by all fields of a clause that is read.** -/
theorem summarisable_of_parse {s : Scope} {clause : String} {n m : Nat} {list : GroupList}
    (h : (GroupList.parse s clause).run n = (.ok list, m)) :
    ∀ f ∈ list.fields, s.summarisable f.field = true := by
  obtain ⟨items, -, hnames, -⟩ := names_of_parse h
  exact forall_mem_of_forall₂ hnames fun _ _ hname => hname.summarisable

/-! ## Columns -/

namespace Scope

variable {s : Scope} {name : String}

theorem column_of_fieldIn? {spec : FieldSpec} (hs : s.context = .milestone)
    (hspec : s.catalog.fieldIn? .milestone name = some spec)
    (hplain : splitName name = (none, name)) :
    s.column name = .ok (columnOf .milestone spec) := by
  have hown : ownerIn? s.catalog .milestone name = some (.field .milestone spec) := by
    rw [ownerIn?, hspec]
  have hresolve : s.resolve? name = some (.field .milestone spec) := by
    rw [resolve?, hplain, hs]
    simp only [Context.inScope, List.findSome?_cons, hown]
  rw [column, hresolve]

/-- Milestone types are in scope only for milestones. -/
theorem context_of_isPivot (h : s.isPivot name = true) : s.context = .milestone := by
  have hown : ∀ {near context : Context} {field : String},
      ownerIn? s.catalog near field = some (.pivot context) → context = .milestone := by
    intro near context field howner
    unfold ownerIn? at howner
    split at howner
    · cases howner
    · split at howner
      · rename_i hpivot
        cases howner
        cases near with
        | game => cases hpivot
        | milestone => rfl
      · cases howner
  unfold isPivot at h
  split at h
  · rename_i context hresolve
    have hmem := context_of_resolve? hresolve
    have hcontext : context = .milestone := by
      unfold resolve? at hresolve
      split at hresolve
      · obtain ⟨near, -, howner⟩ := Option.bind_eq_some_iff.mp hresolve
        exact hown howner
      · obtain ⟨near, -, howner⟩ := List.exists_of_findSome?_eq_some hresolve
        exact hown howner
    rw [Owner.context, hcontext] at hmem
    cases hs : s.context with
    | milestone => rfl
    | game =>
      rw [hs] at hmem
      cases hmem with
      | tail _ hmem => cases hmem
  · cases h

/-- What reports may be grouped by has a column, unless it is a milestone type. -/
theorem exists_column_of_summarisable (h : s.summarisable name = true)
    (hpivot : s.isPivot name = false) : ∃ column, s.column name = .ok column := by
  cases hresolve : s.resolve? name with
  | none =>
    rw [summarisable, hresolve] at h
    cases h
  | some owner =>
    cases owner with
    | field context spec => exact ⟨_, by rw [column, hresolve]⟩
    | pivot context =>
      rw [isPivot, hresolve] at hpivot
      cases hpivot

end Scope

/-- **What rows are really grouped by has a column.** -/
theorem exists_column_onNoun {s : Scope} {verb noun : FieldSpec}
    (hverb : s.catalog.fieldIn? .milestone verbField = some verb)
    (hnoun : s.catalog.fieldIn? .milestone nounField = some noun) {f : GroupField}
    (h : s.summarisable f.field = true) : ∃ column, s.column (Query.onNoun s f).field = .ok column := by
  by_cases hpivot : s.isPivot f.field = true
  · have hs := Scope.context_of_isPivot hpivot
    have hcolumn := Scope.column_of_fieldIn? hs hverb (by decide)
    have hsome : (Query.pivotCondition? s f).isSome = true := by
      rw [Query.pivotCondition?, if_pos hpivot, hcolumn]
      rfl
    have hplain : Scope.splitName nounField = (none, nounField) := by decide
    rw [Query.onNoun, if_pos hsome]
    exact ⟨_, Scope.column_of_fieldIn? hs hnoun hplain⟩
  · have hnone : (Query.pivotCondition? s f).isSome = false := by
      rw [Query.pivotCondition?, if_neg hpivot]
      rfl
    rw [Query.onNoun, hnone]
    exact Scope.exists_column_of_summarisable h (Bool.eq_false_iff.mpr hpivot)

/-! ## Statements -/

theorem exists_mapM {ε α β : Type} {f : α → Except ε β} {as : List α}
    (h : ∀ a ∈ as, ∃ b, f a = .ok b) : ∃ bs, as.mapM f = .ok bs := by
  induction as with
  | nil => exact ⟨[], rfl⟩
  | cons a as ih =>
    obtain ⟨b, hb⟩ := h a (by simp)
    obtain ⟨bs, hbs⟩ := ih fun a ha => h a (by simp [ha])
    refine ⟨b :: bs, mapM_eq_ok.mpr (.cons hb (mapM_eq_ok.mp hbs))⟩

/-- **A query has a statement for its groups** if reports may be grouped by them where the same columns
are found. -/
theorem exists_statement_onNoun {s : Scope} {verb noun : FieldSpec}
    (hverb : s.catalog.fieldIn? .milestone verbField = some verb)
    (hnoun : s.catalog.fieldIn? .milestone nounField = some noun) {q : Query}
    {fields : List GroupField} (hfields : q.groupFields = fields.map (Query.onNoun s))
    (hsame : ∀ name, q.scope.column name = s.column name)
    (h : ∀ f ∈ fields, s.summarisable f.field = true) : ∃ st, q.selectGroups = .ok st := by
  have hcolumn : ∀ f ∈ q.groupFields, ∃ column, q.scope.column f.field = .ok column := by
    rw [hfields]
    intro f hf
    obtain ⟨given, hgiven, rfl⟩ := List.mem_map.mp hf
    rw [hsame]
    exact exists_column_onNoun hverb hnoun (h given hgiven)
  obtain ⟨columns, hcolumns⟩ := exists_mapM hcolumn
  obtain ⟨st, hst, -⟩ := exists_selectGroups hcolumns
  exact ⟨st, hst⟩

/-- A query that is built has a statement for its groups. -/
theorem exists_statement {c : Catalog} {verb noun : FieldSpec}
    (hverb : c.fieldIn? .milestone verbField = some verb)
    (hnoun : c.fieldIn? .milestone nounField = some noun) {context : Context}
    {defaultName : String} {extra : ExtraList} {tokens : List String} {q : Query}
    (h : buildQuery c context defaultName extra tokens = .ok q) :
    ∃ st, q.selectGroups = .ok st := by
  obtain ⟨w, tree, hw, hbuilt⟩ := buildQuery_eq_ok h
  obtain ⟨clause, -, -, hgroup⟩ := (QueryWords.readFrom hw).group_spec
  have hsame : ∀ name, q.scope.column name = (defaultScope c context).column name := by
    intro name
    rw [hbuilt.scope]
    rfl
  have hfields := hbuilt.groupFields_eq
  cases hlist : w.group with
  | none =>
    rw [hlist] at hfields
    have hnil : q.groupFields = [].map (Query.onNoun (defaultScope c context)) := hfields
    exact exists_statement_onNoun hverb hnoun hnil hsame nofun
  | some list =>
    rw [hlist] at hfields hgroup
    rw [Option.map_some, Option.map_some, Option.getD_some, GroupList.fields_map] at hfields
    cases clause with
    | none => cases hgroup
    | some clause =>
      obtain ⟨parsed, hparsed, hsome⟩ := map_eq_ok.mp hgroup
      obtain rfl := Option.some.inj hsome
      have hsummarisable := summarisable_of_parse (Prod.ext hparsed rfl)
      exact exists_statement_onNoun hverb hnoun hfields hsame hsummarisable

/-- **Every query of a command has a statement for its groups.** -/
theorem exists_statements {c : Catalog} {verb noun : FieldSpec}
    (hverb : c.fieldIn? .milestone verbField = some verb)
    (hnoun : c.fieldIn? .milestone nounField = some noun) {context : Context}
    {defaultName : String} {tokens : List String} {g : QueryGroup}
    (h : QueryGroup.parse c context defaultName tokens = .ok g) :
    ∃ statements, List.Forall₂ (fun q st => q.selectGroups = .ok st) g.queries statements := by
  obtain ⟨words, -, hparsed⟩ := parse_eq_ok h
  have hall : ∀ q ∈ g.queries, ∃ st, q.selectGroups = .ok st :=
    forall_mem_of_forall₂ hparsed.queries fun tokens q hq => exists_statement hverb hnoun hq
  obtain ⟨statements, hstatements⟩ := exists_mapM hall
  exact ⟨statements, mapM_eq_ok.mp hstatements⟩

end GameLog
