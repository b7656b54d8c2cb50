import GameLog.Catalog.Builtin
import GameLog.Proofs.Query.Seam
import GameLog.Report.Row

/-!
# The shape of the rows of all queries

A report splits the rows of every answer by the group fields of the primary query. The extra columns
of all queries are those of the group. Group clauses however are looked for in the tokens of each
query: those of the first fragment are in all queries, and one in a further fragment is in the query
of that fragment only, where no other one may stand beside it.

Main statements:
* `group_eq_none_iff`: a query has groups exactly if there is a group clause among its tokens;
* `same_shape_iff`: all queries have the shape of the primary one exactly if no further fragment
  brings groups that the first one lacks;
* `further_group_changes_shape`: there are commands where one does.
-/

namespace GameLog

open GameLog.Text

/-! ## Group clauses -/

/-- A marker for a random row is no group clause. -/
theorem isGroupClause_of_isRandomMarker {token : String} (h : isRandomMarker token = true) :
    isGroupClause token = false := by
  have hlower : token.toList.map Char.toLower = '-' :: 'r' :: "andom".toList := by
    have hsame : lower token = "-random" := (beq_iff_eq.mp h).trans (by decide)
    simpa [lower] using congrArg String.toList hsame
  obtain ⟨sign, rest, htoken, hsign, hrest⟩ := List.map_eq_cons_iff.mp hlower
  obtain ⟨c, tail, rfl, hc, -⟩ := List.map_eq_cons_iff.mp hrest
  have hdash : sign = '-' := by
    rcases eq_or_of_toLower hsign with hsign | ⟨h₁, -, h₂⟩
    · exact hsign
    · have hnat : ('-' : Char).toNat = 45 := rfl
      omega
  have hr : c = 'r' ∨ c = 'R' := by
    rcases eq_or_of_toLower hc with hc | ⟨-, -, h₂⟩
    · exact .inl hc
    · have hnat : ('r' : Char).toNat = ('R' : Char).toNat + 32 := rfl
      have hcapital : c.toNat = ('R' : Char).toNat := by omega
      exact .inr (Char.ext (UInt32.toNat.inj hcapital))
  rw [isGroupClause, htoken, hdash, dropMinus]
  rcases hr with rfl | rfl <;> rfl

theorem groupClauses_eq (tokens : List String) :
    (takeAll isGroupClause (takeAll isRandomMarker tokens).2).1 = tokens.filter isGroupClause := by
  simp only [takeAll, List.filter_filter]
  refine List.filter_congr fun token _ => ?_
  cases hmarker : isRandomMarker token with
  | false => simp
  | true => simp [isGroupClause_of_isRandomMarker hmarker]

theorem onlyClause_eq_ok {clauses : List String} {clause : Option String}
    (h : onlyClause clauses = .ok clause) : clauses = clause.toList := by
  match clauses with
  | [] =>
    obtain rfl := Except.ok.inj h
    rfl
  | [only] =>
    obtain rfl := Except.ok.inj h
    rfl
  | _ :: _ :: _ => cases h

/-- **A query has groups exactly if there is a group clause among its tokens**, and then that is the
only one. -/
theorem QueryWords.ReadFrom.group_spec {c : Catalog} {context : Context} {defaultName : String}
    {tokens : List String} {w : QueryWords} (h : w.ReadFrom c context defaultName tokens) :
    ∃ clause : Option String, tokens.filter isGroupClause = clause.toList ∧
      clause.isSome = w.group.isSome ∧ (clause.mapM fun clause =>
        (GroupList.parse (defaultScope c context) clause).fresh) = .ok w.group := by
  obtain ⟨clause, hclause, hgroup⟩ := bind_eq_ok.mp h.group
  rw [groupClauses_eq] at hclause
  refine ⟨clause, onlyClause_eq_ok hclause, ?_, hgroup⟩
  cases clause with
  | none =>
    have hnone : none = w.group := Except.ok.inj hgroup
    rw [← hnone]
    rfl
  | some clause =>
    have hmap : (GroupList.parse (defaultScope c context) clause).fresh.map some = .ok w.group :=
      hgroup
    cases hparse : (GroupList.parse (defaultScope c context) clause).fresh with
    | error e =>
      rw [hparse] at hmap
      cases hmap
    | ok list =>
      rw [hparse] at hmap
      have hsome : some list = w.group := Except.ok.inj hmap
      rw [← hsome]
      rfl

theorem filter_eq_nil_iff_any {sort : String → Bool} {tokens : List String} :
    tokens.filter sort = [] ↔ tokens.any sort = false := by
  rw [List.filter_eq_nil_iff, List.any_eq_false]

/-- Tokens without a group clause ask for no groups. -/
theorem QueryWords.ReadFrom.group_eq_none_iff {c : Catalog} {context : Context}
    {defaultName : String} {tokens : List String} {w : QueryWords}
    (h : w.ReadFrom c context defaultName tokens) :
    w.group = none ↔ tokens.any isGroupClause = false := by
  obtain ⟨clause, hclause, hsome, -⟩ := h.group_spec
  rw [← filter_eq_nil_iff_any, hclause]
  cases clause <;> cases hw : w.group <;> simp_all

/-- **More tokens keep the groups if there are groups already, or no group clause is added.** -/
theorem QueryWords.ReadFrom.group_append {c : Catalog} {context : Context} {defaultName : String}
    {first fragment : List String} {w w' : QueryWords}
    (h : w.ReadFrom c context defaultName first)
    (h' : w'.ReadFrom c context defaultName (first ++ fragment))
    (hfirst : first.any isGroupClause = true ∨ fragment.any isGroupClause = false) :
    w'.group = w.group := by
  obtain ⟨clause, hclause, -, hgroup⟩ := h.group_spec
  obtain ⟨clause', hclause', -, hgroup'⟩ := h'.group_spec
  rw [List.filter_append] at hclause'
  have hnil : fragment.filter isGroupClause = [] := by
    rcases hfirst with hfirst | hfragment
    · have hne : first.filter isGroupClause ≠ [] := by
        rw [Ne, filter_eq_nil_iff_any, hfirst]
        decide
      have hpos := List.length_pos_of_ne_nil hne
      have hlen := congrArg List.length hclause'
      rw [List.length_append] at hlen
      have hone : clause'.toList.length ≤ 1 := by cases clause' <;> simp
      exact List.length_eq_zero_iff.mp (by omega)
    · exact filter_eq_nil_iff_any.mpr hfragment
  have hsame : clause' = clause := by
    rw [hnil, List.append_nil, hclause] at hclause'
    cases clause <;> cases clause' <;> simp_all
  rw [hsame, hgroup] at hgroup'
  exact (Except.ok.inj hgroup').symm

/-! ## What is selected -/

theorem selectGroups_eq_ok {q : Query} {st : Statement} (h : q.selectGroups = .ok st) :
    q.groupFields.mapM (fun f => q.scope.column f.field) = .ok st.groupBy ∧
      st.selected = ⟨.countRows, some Query.countAlias⟩ ::
        (st.groupBy.map (fun c => ⟨.column c, none⟩) ++ q.extra.fields.map (·.selected)) := by
  obtain ⟨columns, hcolumns, h⟩ := bind_eq_ok.mp h
  obtain rfl := Except.ok.inj h
  exact ⟨hcolumns, rfl⟩

/-- **A row fits the slots** of a report that takes so many of its cells for group cells: behind the
count each column that the statement groups by has its group cell, and each extra column its slot.
-/
structure FitsSlots (groups : Nat) (st : Statement) (extra : ExtraList) (row : Row) : Prop where
  selected_eq : st.selected = ⟨.countRows, some Query.countAlias⟩ ::
    (st.groupBy.map (fun c => ⟨.column c, none⟩) ++ extra.fields.map (·.selected))
  row_eq : ∃ count, (ReportRow.ofRow groups row).counts = [ReportRow.cellCount count] ∧
    row = count :: ((ReportRow.ofRow groups row).cells ++ (ReportRow.ofRow groups row).extras.flatten)
  cells : (ReportRow.ofRow groups row).cells.length = st.groupBy.length
  extras : (ReportRow.ofRow groups row).extras.length = extra.fields.length

theorem flatten_map_singleton {α : Type} (as : List α) : (as.map fun a => [a]).flatten = as := by
  induction as with
  | nil => rfl
  | cons a as ih => rw [List.map_cons, List.flatten_cons, ih, List.singleton_append]

theorem exists_selectGroups {q : Query} {columns : List Column}
    (h : q.groupFields.mapM (fun f => q.scope.column f.field) = .ok columns) :
    ∃ st, q.selectGroups = .ok st ∧ st.groupBy = columns := by
  unfold Query.selectGroups
  rw [h]
  exact ⟨_, rfl, rfl⟩

theorem length_groupBy {q : Query} {st : Statement} (h : q.selectGroups = .ok st) :
    st.groupBy.length = q.groupFields.length := by
  obtain ⟨hcolumns, -⟩ := selectGroups_eq_ok h
  exact (mapM_eq_ok.mp hcolumns).length_eq.symm

/-- **Queries with the same groups and extra columns select the same**, if they find the same
columns. -/
theorem selectGroups_congr {q primary : Query} {st : Statement} (h : q.selectGroups = .ok st)
    (hfields : q.groupFields = primary.groupFields) (hextra : q.extra = primary.extra)
    (hcolumn : ∀ name, q.scope.column name = primary.scope.column name) :
    ∃ st', primary.selectGroups = .ok st' ∧ st.selected = st'.selected ∧
      st.groupBy = st'.groupBy := by
  obtain ⟨hcolumns, hselected⟩ := selectGroups_eq_ok h
  simp only [hfields, hcolumn] at hcolumns
  obtain ⟨st', hst', hgroupBy⟩ := exists_selectGroups hcolumns
  obtain ⟨-, hselected'⟩ := selectGroups_eq_ok hst'
  refine ⟨st', hst', ?_, hgroupBy.symm⟩
  rw [hselected, hselected', hgroupBy, hextra]

/-- A row with a cell for all that is selected fits the slots of a report with as many group cells as
the statement has columns to group by. -/
theorem fitsSlots_of_length {q : Query} {st : Statement} (h : q.selectGroups = .ok st) {row : Row}
    (hrow : row.length = st.selected.length) :
    FitsSlots st.groupBy.length st q.extra row := by
  obtain ⟨-, hselected⟩ := selectGroups_eq_ok h
  rw [hselected] at hrow
  cases row with
  | nil => cases hrow
  | cons count cells =>
    have hlen : cells.length = st.groupBy.length + q.extra.fields.length := by simpa using hrow
    constructor
    · exact hselected
    · refine ⟨count, rfl, ?_⟩
      simp only [ReportRow.ofRow, List.tail_cons, flatten_map_singleton, List.take_append_drop]
    · simp only [ReportRow.ofRow, List.tail_cons, List.length_take]
      omega
    · simp only [ReportRow.ofRow, List.tail_cons, List.length_map, List.length_drop]
      omega

/-! ## The groups of all queries -/

/-- **Groups come first** in a command: the first fragment has a group clause, or no further one
has. -/
def CommandWords.GroupsFirst (w : CommandWords) : Prop :=
  w.first.any isGroupClause = true ∨ ∀ fragment ∈ w.others, fragment.any isGroupClause = false

theorem CommandWords.groupsFirst_iff {w : CommandWords} :
    w.GroupsFirst ↔ ∀ fragment ∈ w.others,
      w.first.any isGroupClause = true ∨ fragment.any isGroupClause = false := by
  unfold GroupsFirst
  by_cases hfirst : w.first.any isGroupClause = true
  · simp [hfirst]
  · simp only [hfirst, Bool.false_eq_true, false_or]

theorem forall_mem_iff_of_forall₂ {α β : Type} {p : α → Prop} {q : β → Prop} {as : List α}
    {bs : List β} (h : List.Forall₂ (fun a b => p a ↔ q b) as bs) :
    (∀ a ∈ as, p a) ↔ ∀ b ∈ bs, q b := by
  induction h with
  | nil => simp
  | cons hab _ ih => rw [List.forall_mem_cons, List.forall_mem_cons, hab, ih]

theorem forall_mem_of_forall₂ {α β : Type} {r : α → β → Prop} {p : β → Prop} {as : List α}
    {bs : List β} (h : List.Forall₂ r as bs) (hr : ∀ a b, r a b → p b) : ∀ b ∈ bs, p b := by
  induction h with
  | nil => simp
  | cons hab _ ih => exact List.forall_mem_cons.mpr ⟨hr _ _ hab, ih⟩

theorem Query.BuiltFrom.groupFields_eq {c : Catalog} {context : Context} {w : QueryWords}
    {tree : TermTree} {extra : ExtraList} {q : Query}
    (h : q.BuiltFrom w (w.scope c context) tree extra) :
    q.groupFields =
      ((w.group.map fun list =>
        list.map (Query.onNoun (defaultScope c context))).map GroupList.fields).getD [] := by
  rw [Query.groupFields, h.group]
  rfl

/-- **A further query has the groups of the primary one exactly if its fragment adds none.** -/
theorem groupFields_eq_iff {c : Catalog} {context : Context} {defaultName : String}
    {extra : ExtraList} {first fragment : List String} {primary q : Query} {w : QueryWords}
    {tree : TermTree} (hw : QueryWords.read c context defaultName first = .ok w)
    (hprimary : primary.BuiltFrom w (w.scope c context) tree extra)
    (h : buildQuery c context defaultName extra (first ++ fragment) = .ok q) :
    q.groupFields = primary.groupFields ↔
      (first.any isGroupClause = true ∨ fragment.any isGroupClause = false) := by
  obtain ⟨w', tree', hw', hbuilt⟩ := buildQuery_eq_ok h
  have hread := QueryWords.readFrom hw
  have hread' := QueryWords.readFrom hw'
  rw [hbuilt.groupFields_eq, hprimary.groupFields_eq]
  constructor
  · intro hfields
    by_contra hnot
    obtain ⟨hfirst, hfragment⟩ := not_or.mp hnot
    -- the primary query has no groups, and the further one has some
    have hnone : w.group = none := hread.group_eq_none_iff.mpr (by simpa using hfirst)
    have hsome : w'.group ≠ none := by
      rw [Ne, hread'.group_eq_none_iff, List.any_append]
      simpa using fun _ => hfragment
    cases hgroup : w'.group with
    | none => exact hsome hgroup
    | some list =>
      rw [hgroup, hnone] at hfields
      simp [GroupList.fields, GroupList.map] at hfields
  · intro hfirst
    rw [hread.group_append hread' hfirst]

/-- **All queries have the shape of the primary one exactly if groups come first.** They have the
extra columns of the group in any case. Where groups come first, all queries select the same, and
each cell of a row that a query is answered with has its slot in a report on the groups of the
primary query. -/
theorem same_shape_iff {c : Catalog} {context : Context} {defaultName : String}
    {tokens : List String} {g : QueryGroup}
    (h : QueryGroup.parse c context defaultName tokens = .ok g) :
    ∃ words, CommandWords.read (defaultScope c context) tokens = .ok words ∧
      (∀ q ∈ g.queries, q.extra = g.extra) ∧
      ((∀ q ∈ g.queries, q.groupFields = g.primary.groupFields) ↔ words.GroupsFirst) ∧
      (words.GroupsFirst → ∀ q ∈ g.queries, ∀ st, q.selectGroups = .ok st →
        (∃ st', g.primary.selectGroups = .ok st' ∧ st.selected = st'.selected ∧
          st.groupBy = st'.groupBy) ∧
        ∀ row : Row, row.length = st.selected.length →
          FitsSlots g.primary.groupFields.length st g.extra row) := by
  obtain ⟨words, hwords, hparsed⟩ := parse_eq_ok h
  obtain ⟨w, tree, hw, hprimary⟩ := buildQuery_eq_ok hparsed.primary
  have hbuilt : ∀ q ∈ g.queries, q.extra = g.extra ∧ ∀ name, q.scope.column name =
      (defaultScope c context).column name := by
    refine forall_mem_of_forall₂ hparsed.queries fun tokens q hq => ?_
    obtain ⟨w', tree', -, hbuilt⟩ := buildQuery_eq_ok hq
    refine ⟨hbuilt.extra, fun name => ?_⟩
    rw [hbuilt.scope]
    rfl
  have hgroups : (∀ q ∈ g.queries, q.groupFields = g.primary.groupFields) ↔ words.GroupsFirst := by
    have hall := hparsed.others.imp fun fragment q hq =>
      (groupFields_eq_iff hw hprimary hq).symm
    rw [CommandWords.groupsFirst_iff, forall_mem_iff_of_forall₂ hall, QueryGroup.queries,
      List.forall_mem_cons]
    exact and_iff_right rfl
  refine ⟨words, hwords, fun q hq => (hbuilt q hq).1, hgroups, fun hfirst q hq st hst => ?_⟩
  have hfields := hgroups.mpr hfirst q hq
  obtain ⟨hextra, hcolumn⟩ := hbuilt q hq
  obtain ⟨hextra', hcolumn'⟩ := hbuilt g.primary (by simp [QueryGroup.queries])
  refine ⟨selectGroups_congr hst hfields (hextra.trans hextra'.symm) fun name =>
    (hcolumn name).trans (hcolumn' name).symm, fun row hrow => ?_⟩
  rw [← hfields, ← length_groupBy hst, ← hextra]
  exact fitsSlots_of_length hst hrow

/-- Over the built-in catalog, both queries of a command whose first fragment groups by god have one
shape. -/
theorem builtin_same_shape : ∃ g,
    QueryGroup.parse .builtin .game "*" ["*", "s=god", "x=avg(xl)", "/", "xl>5"] = .ok g ∧
      (∀ q ∈ g.queries, q.groupFields = g.primary.groupFields) ∧
      ∀ q ∈ g.queries, ∀ st, q.selectGroups = .ok st → ∀ row : Row,
        row.length = st.selected.length →
          FitsSlots g.primary.groupFields.length st g.extra row := by
  have htwo : (QueryGroup.parse .builtin .game "*"
      ["*", "s=god", "x=avg(xl)", "/", "xl>5"]).toOption.map (fun g => g.queries.length) =
      some 2 := by decide +kernel
  have hfirst : (CommandWords.read (defaultScope .builtin .game)
      ["*", "s=god", "x=avg(xl)", "/", "xl>5"]).toOption.map CommandWords.first =
      some ["*", "s=god"] := by decide +kernel
  obtain ⟨g, hparse, -⟩ := exists_ok_of_map htwo
  obtain ⟨words, hwords, -, hgroups, hslots⟩ := same_shape_iff hparse
  rw [hwords] at hfirst
  have hclause : words.GroupsFirst := by
    left
    rw [Option.some.inj hfirst]
    decide +kernel
  exact ⟨g, hparse, hgroups.mpr hclause, fun q hq st hst => (hslots hclause q hq st hst).2⟩

/-- **A further fragment may change the shape**: here the primary query has no groups, and the query
behind the slash groups by god, so that its gods are taken for the cells of an extra column. -/
theorem further_group_changes_shape : ∃ g,
    QueryGroup.parse .builtin .game "*" ["*", "/", "s=god"] = .ok g ∧
      g.primary.groupFields = [] ∧ ∃ q ∈ g.others, q.groupFields.map (·.field) = ["god"] := by
  have hgroups : (QueryGroup.parse .builtin .game "*" ["*", "/", "s=god"]).toOption.map (fun g =>
      (g.primary.groupFields, g.others.map fun q => q.groupFields.map (·.field))) =
      some ([], [["god"]]) := by decide +kernel
  obtain ⟨g, hparse, hboth⟩ := exists_ok_of_map hgroups
  obtain ⟨hprimary, hothers⟩ := Prod.mk.inj hboth
  obtain ⟨q, rest, hcons, hfield, -⟩ := List.map_eq_cons_iff.mp hothers
  exact ⟨g, hparse, hprimary, q, by simp [hcons], hfield⟩

end GameLog
