import GameLog.Catalog.Builtin
import GameLog.Proofs.Query.ExtraColumns

/-!
# What aggregate queries select

A statement that groups rows has one row for each group, so what it selects has to be the same for all rows
of a group: the count, a column that it groups by, or an aggregate of the group. A store would answer any
other column with the value of some row. Three checks together keep such columns out: the columns of one
clause are all aggregate or none is, plain columns stand beside no groups, and of several fragments all are
aggregate.

Main statements:
* `kinds_of_build`: beside groups all extra columns of a query are aggregate;
* `legal_selected`: what a query with aggregate extra columns selects in its groups;
* `selects_legal_columns`: what all queries of a command select.
-/

namespace GameLog

open GameLog.Text

/-! ## Legal columns -/

/-- **An expression is aggregate** if it counts rows or applies a function of the catalog to a group. -/
def Expression.IsAggregate (c : Catalog) : Expression → Prop
  | .column _ => False
  | .countRows => True
  | .countDistinct _ => c.functions.contains distinctCount = true
  | .apply function _ => c.functions.contains function = true

/-- **A selected item is legal beside groups**: it is the count of the rows of a group, one of the columns
that rows are grouped by, or an aggregate expression. -/
inductive Selected.LegalBeside (c : Catalog) (groupBy : List Column) : Selected → Prop
  | count : LegalBeside c groupBy ⟨.countRows, some Query.countAlias⟩
  | group {column : Column} (h : column ∈ groupBy) : LegalBeside c groupBy ⟨.column column, none⟩
  | aggregate {item : Selected} (h : item.expression.IsAggregate c) : LegalBeside c groupBy item

theorem isAggregate_applied {c : Catalog} {function : String} (column : Column)
    (h : c.functions.contains function = true) : (applied function column).IsAggregate c := by
  by_cases hdistinct : function = distinctCount
  · rw [applied, if_pos hdistinct]
    rw [hdistinct] at h
    exact h
  · rw [applied, if_neg hdistinct]
    exact h

/-- An aggregate extra column selects an aggregate expression. -/
theorem ExtraField.ReadFrom.isAggregate_expression {s : Scope} {item : ClauseItem} {f : ExtraField}
    (h : f.ReadFrom s item) (haggregate : f.isAggregate = true) :
    f.selected.expression.IsAggregate s.catalog := by
  cases h with
  | count n hshown hselected =>
    rw [hselected]
    trivial
  | field name column hcolumn hshown hselected =>
    rw [ExtraField.isAggregate, hshown] at haggregate
    cases haggregate
  | aggregate function name column n hfunction hcolumn hshown hselected hknown =>
    rw [hselected]
    exact isAggregate_applied column hknown

/-- An extra column that is not aggregate shows a field under its name. -/
theorem ExtraField.ReadFrom.exists_field {s : Scope} {item : ClauseItem} {f : ExtraField}
    (h : f.ReadFrom s item) (hplain : f.isAggregate = false) :
    ∃ name column, f.projection = .field name ∧ s.column name = .ok column ∧
      f.selected = ⟨.column column, none⟩ ∧ f.label = name ∧ f.kind = s.kind? name := by
  cases h with
  | count n hshown =>
    rw [ExtraField.isAggregate, hshown] at hplain
    cases hplain
  | field name column hcolumn hshown hselected hlabel hkind =>
    exact ⟨name, column, hshown, hcolumn, hselected, hlabel, hkind⟩
  | aggregate function name column n hfunction hcolumn hshown =>
    rw [ExtraField.isAggregate, hshown] at hplain
    cases hplain

/-! ## Queries -/

theorem kinds_of_addGroup {q q' : Query} {extra : ExtraList} {group : Option GroupList}
    (h : addGroup q extra group = .ok q') (hgroup : group ≠ none) :
    extra.isEmpty = true ∨ extra.isAggregate = true := by
  unfold addGroup at h
  split at h
  · exact absurd rfl hgroup
  · split at h
    · cases h
    · rename_i hmixed
      cases hempty : extra.isEmpty <;> cases haggregate : extra.isAggregate <;> simp_all

/-- **Beside groups all extra columns of a query are aggregate**, if there are any. -/
theorem kinds_of_build {c : Catalog} {context : Context} {defaultName : String} {extra : ExtraList}
    {tokens : List String} {q : Query}
    (h : buildQuery c context defaultName extra tokens = .ok q) (haggregate : q.isAggregate = true) :
    extra.isEmpty = true ∨ extra.isAggregate = true := by
  obtain ⟨words, tree, hwords, hbuilt⟩ := buildQuery_eq_ok h
  obtain ⟨source, start, condition, sorted, grouped, -, -, -, hgroup, -⟩ :=
    exists_steps_of_build hwords h
  rw [Query.isAggregate, hbuilt.extra, Bool.or_eq_true, hbuilt.group, Option.isSome_map] at haggregate
  rcases haggregate with hsome | hextra
  · exact kinds_of_addGroup hgroup (Option.isSome_iff_ne_none.mp hsome)
  · exact .inr hextra

/-- **What a query selects in its groups is legal** if its extra columns select aggregate expressions. -/
theorem legal_selected {c : Catalog} {q : Query} {st : Statement} (h : q.selectGroups = .ok st)
    (hextra : ∀ f ∈ q.extra.fields, f.selected.expression.IsAggregate c) :
    ∀ item ∈ st.selected, item.LegalBeside c st.groupBy := by
  obtain ⟨-, hselected⟩ := selectGroups_eq_ok h
  rw [hselected]
  intro item hitem
  rcases List.mem_cons.mp hitem with rfl | hitem
  · exact .count
  · rcases List.mem_append.mp hitem with hgroup | hshown
    · obtain ⟨column, hcolumn, rfl⟩ := List.mem_map.mp hgroup
      exact .group hcolumn
    · obtain ⟨f, hf, rfl⟩ := List.mem_map.mp hshown
      exact .aggregate (hextra f hf)

/-- **An extra column stands at a place** of the rows of a query: it shows a field, and both what the rows are
said to have and what is selected for them have that field there. -/
def ExtraField.StandsAt (s : Scope) (q : Query) (place : Nat) (f : ExtraField) : Prop :=
  ∃ name column, f.projection = .field name ∧ s.column name = .ok column ∧
    q.rowColumns[place]? = some ⟨name, s.kind? name⟩ ∧
    q.selectRows.selected[place]? = some ⟨.column column, none⟩

/-- The extra columns of a query stand behind the fields of its context, if they are not aggregate. -/
theorem standsAt_of_plain {s : Scope} {q : Query} (hplain : q.extra.isAggregate = false) {i : Nat}
    {f : ExtraField} (hf : q.extra.fields[i]? = some f) (hread : f.ReadIn s)
    (hfield : f.isAggregate = false) :
    f.StandsAt s q ((q.scope.catalog.fields q.scope.context).length + i) := by
  obtain ⟨-, -, -, item, -, hread⟩ := hread
  obtain ⟨name, column, hshown, hcolumn, hselected, hlabel, hkind⟩ := hread.exists_field hfield
  have hrows : q.rowExtras = q.extra.fields := by simp [Query.rowExtras, hplain]
  refine ⟨name, column, hshown, hcolumn, ?_, ?_⟩
  · rw [Query.rowColumns, hrows, List.getElem?_append_right (by simp), List.length_map,
      Nat.add_sub_cancel_left, List.getElem?_map, hf, Option.map_some, hlabel, hkind]
  · rw [Query.selectRows, hrows, List.getElem?_append_right (by simp), List.length_map,
      Nat.add_sub_cancel_left, List.getElem?_map, hf, Option.map_some, hselected]

/-! ## Commands -/

theorem QueryGroup.ParsedFrom.query_spec {c : Catalog} {context : Context} {defaultName : String}
    {w : CommandWords} {g : QueryGroup} (h : g.ParsedFrom c context defaultName w) :
    ∀ q ∈ g.queries, q.extra = g.extra ∧ q.scope.catalog = c ∧ q.scope.context = context := by
  refine forall_mem_of_forall₂ h.queries fun tokens q hq => ?_
  obtain ⟨words, tree, -, hbuilt⟩ := buildQuery_eq_ok hq
  rw [hbuilt.scope]
  exact ⟨hbuilt.extra, rfl, rfl⟩

/-- **Aggregate queries select legal columns only.** If the primary query of a command is aggregate, so are
all its queries; they have the extra columns of the group, and where a query has a statement for its groups,
each item it selects is the count, one of the columns that the statement groups by, or an aggregate
expression. If the primary query is not aggregate it is the only one, it has no groups, and each extra column
shows a field that stands at one place behind the fields of the context, both among the columns of rows and
in the statement that reads them. -/
theorem selects_legal_columns {c : Catalog} {context : Context} {defaultName : String}
    {tokens : List String} {g : QueryGroup}
    (h : QueryGroup.parse c context defaultName tokens = .ok g) :
    (∀ q ∈ g.queries, q.extra = g.extra) ∧
    (g.primary.isAggregate = true → ∀ q ∈ g.queries, q.isAggregate = true ∧
      ∀ st, q.selectGroups = .ok st → ∀ item ∈ st.selected, item.LegalBeside c st.groupBy) ∧
    (g.primary.isAggregate = false → g.others = [] ∧ g.primary.group = none ∧
      ∀ (i : Nat) (f : ExtraField), g.extra.fields[i]? = some f →
        f.StandsAt (defaultScope c context) g.primary ((c.fields context).length + i)) := by
  obtain ⟨words, -, hparsed⟩ := parse_eq_ok h
  have hspec := hparsed.query_spec
  have hread := readIn_of_parse h
  have hkinds := isAggregate_eq_of_parse h
  refine ⟨fun q hq => (hspec q hq).1, fun haggregate q hq => ⟨?_, fun st hst => ?_⟩,
    fun hplain => ⟨?_, ?_, fun i f hf => ?_⟩⟩
  · by_cases hothers : g.others = []
    · rw [QueryGroup.queries, hothers, List.mem_singleton] at hq
      rwa [hq]
    · exact hparsed.aggregate hothers q hq
  · refine legal_selected hst fun f hf => ?_
    rw [(hspec q hq).1] at hf
    have hall : g.extra.isAggregate = true := by
      rcases kinds_of_build hparsed.primary haggregate with hempty | hextra
      · rw [List.isEmpty_iff.mp hempty] at hf
        cases hf
      · exact hextra
    obtain ⟨-, -, -, item, -, hitem⟩ := hread f hf
    exact hitem.isAggregate_expression ((hkinds f hf).trans hall)
  · by_contra hothers
    have hprimary := hparsed.aggregate hothers g.primary (by simp [QueryGroup.queries])
    rw [hplain] at hprimary
    cases hprimary
  · rw [Query.isAggregate, Bool.or_eq_false_iff] at hplain
    exact Option.isSome_eq_false_iff.mp hplain.1 |> Option.isNone_iff_eq_none.mp
  · obtain ⟨hextra, hcatalog, hcontext⟩ := hspec g.primary (by simp [QueryGroup.queries])
    rw [Query.isAggregate, Bool.or_eq_false_iff, hextra] at hplain
    have hmem := List.mem_of_getElem? hf
    have hstands := standsAt_of_plain (q := g.primary) (by rw [hextra]; exact hplain.2)
      (by rw [hextra]; exact hf) (hread f hmem) ((hkinds f hmem).trans hplain.2)
    rwa [hcatalog, hcontext] at hstands

/-- Over the built-in catalog: what both queries of a command that groups by god select, and where the two
plain columns of another command stand behind the fields of a game. -/
theorem builtin_selects_legal_columns :
    (∃ g, QueryGroup.parse .builtin .game "*" ["s=god", "x=avg(xl),n", "/", "xl>5"] = .ok g ∧
      ∀ q ∈ g.queries, q.isAggregate = true ∧
        ∀ st, q.selectGroups = .ok st → ∀ item ∈ st.selected, item.LegalBeside .builtin st.groupBy) ∧
    ∃ g, QueryGroup.parse .builtin .game "*" ["x=sk,place"] = .ok g ∧ g.others = [] ∧
      ∃ f, g.extra.fields[1]? = some f ∧ f.label = "place" ∧
        f.StandsAt (defaultScope .builtin .game) g.primary
          ((Catalog.builtin.fields .game).length + 1) := by
  have hgroups : (QueryGroup.parse .builtin .game "*" ["s=god", "x=avg(xl),n", "/", "xl>5"]).toOption.map
      (fun g => g.primary.isAggregate) = some true := by decide +kernel
  have hrows : (QueryGroup.parse .builtin .game "*" ["x=sk,place"]).toOption.map
      (fun g => (g.primary.isAggregate, g.extra.fields[1]?.map ExtraField.label)) =
      some (false, some "place") := by decide +kernel
  obtain ⟨g, hparse, haggregate⟩ := exists_ok_of_map hgroups
  obtain ⟨g', hparse', hboth⟩ := exists_ok_of_map hrows
  obtain ⟨hplain, hlabel⟩ := Prod.mk.inj hboth
  obtain ⟨f, hf, hplace⟩ := Option.map_eq_some_iff.mp hlabel
  obtain ⟨hone, -, hstands⟩ := (selects_legal_columns hparse').2.2 hplain
  exact ⟨⟨g, hparse, (selects_legal_columns hparse).2.1 haggregate⟩,
    ⟨g', hparse', hone, f, hf, hplace, hstands 1 f hf⟩⟩

end GameLog
