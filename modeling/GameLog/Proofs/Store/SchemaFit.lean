import GameLog.Proofs.Query.ExtraColumns
import GameLog.Proofs.Query.Joining
import GameLog.Proofs.Query.Meaning
import GameLog.Proofs.Query.RowSort
import GameLog.Proofs.Statement.ClauseText
import GameLog.Proofs.Store.Declared
import Mathlib.Data.List.Nodup

/-!
# Queries fit the tables of their catalog

The tables of a store are declared from the catalog, and the statements of queries are built from it,
each by itself. They agree: a statement reads declared tables only, and each column that it names by the
short name of a table is declared by that table. What carries this is that a query names no column but
those of fields in its scope (`Query.Grounded`) and that it joins games where it reads them.

The keys are the exception. Rows are told apart and joined by the names of these fields and not by their
columns, so that the tables have these columns only if the catalog keeps its keys under their names.

Main statements:
* `grounded_of_parse`: the queries of a command name columns of fields in scope only;
* `Query.Grounded.fits`: the statements of such a query fit the declarations;
* `queries_fit_schema`: those of every command over an accepted catalog do.
-/

namespace GameLog

open GameLog.Text

/-! ## Statements and declarations -/

/-- **A statement fits declarations**: the tables that it reads are declared and have different short
names; each column that it names, and each qualified name in the text of its clauses, is a column that
is declared by the table whose short name is in front of it. -/
structure Statement.Fits (declarations : List Declaration) (st : Statement) : Prop where
  tables : ∀ ref ∈ st.tables, ∃ columns, .table ref.table columns ∈ declarations
  shorts : (st.tables.map TableRef.short).Nodup
  columns : ∀ c ∈ st.columns, ∃ ref ∈ st.tables, c.table = some ref.short ∧
    Declares declarations ref.table c.name
  names : ∀ name ∈ st.columnNames, ∃ ref ∈ st.tables, ∃ column, name = ref.short ++ "." ++ column ∧
    Declares declarations ref.table column

/-- A statement of a query: the one that counts its rows, the one that reads them, or the one that
reads its groups if there is one. -/
def Query.States (q : Query) (st : Statement) : Prop :=
  st = q.selectCount ∨ st = q.selectRows ∨ q.selectGroups = .ok st

/-! ## Columns of fields in scope -/

/-- A column is one of a field of a context in scope. -/
def Scope.Owns (s : Scope) (c : Column) : Prop :=
  ∃ context ∈ s.context.inScope, c.table = some context.short ∧ s.catalog.HasColumn context c.name

theorem Scope.owns_of_column {s : Scope} {name : String} {c : Column} (h : s.column name = .ok c) :
    s.Owns c := by
  unfold Scope.column at h
  split at h
  · rename_i context spec hres
    obtain rfl := Except.ok.inj h
    exact ⟨context, Scope.context_of_resolve? hres, rfl, spec, Scope.mem_fields_of_resolve? hres, rfl⟩
  · cases h

theorem Scope.Owns.legible {s : Scope} {c : Column} (h : s.Owns c) (hs : s.catalog.Legible) :
    c.Legible := by
  obtain ⟨table, name⟩ := c
  obtain ⟨context, -, rfl, spec, hspec, rfl⟩ := h
  exact legible_column context (isNamePart_of_isBareWord (hs context spec hspec))

/-- **A query is grounded** if it is about a game type of its catalog, joins games where they are read,
and names no columns but those of fields in its scope. -/
structure Query.Grounded (q : Query) : Prop where
  game : q.scope.game ∈ q.scope.catalog.tablePrefixes.names
  joins : q.Joins
  condition : ∀ comparison ∈ q.condition.comparisons, q.scope.Owns comparison.column
  order : q.scope.Owns q.sortColumn
  extra : ∀ f ∈ q.extra.fields, ∀ c, f.selected.expression.column? = some c → q.scope.Owns c
  pointless : ∀ f ∈ q.extra.fields, f.Pointless

theorem QueryWords.game_mem {c : Catalog} (hc : c.Complete) {context : Context}
    {defaultName : String} {tokens : List String} {w : QueryWords}
    (h : QueryWords.read c context defaultName tokens = .ok w) : w.game ∈ c.tablePrefixes.names := by
  rw [(QueryWords.readFrom h).game]
  cases hfound : Option.bind _ c.gameType? with
  | none => exact hc.table
  | some game =>
    obtain ⟨word, -, hword⟩ := Option.bind_eq_some_iff.mp hfound
    exact Catalog.mem_of_gameType? hword

/-- An extra column reads no column but that of a field in scope. -/
theorem ExtraField.ShowsSelected.owns {s : Scope} {f : ExtraField} (h : f.ShowsSelected s)
    {c : Column} (hc : f.selected.expression.column? = some c) : s.Owns c := by
  unfold ExtraField.ShowsSelected at h
  split at h
  · rw [h] at hc
    cases hc
  · obtain ⟨column, hcolumn, hselected⟩ := h
    rw [hselected] at hc
    cases hc
    exact Scope.owns_of_column hcolumn
  · obtain ⟨column, hcolumn, hselected⟩ := h
    have hread : column = c := by
      rw [hselected, applied] at hc
      split at hc <;> exact Option.some.inj hc
    exact hread ▸ Scope.owns_of_column hcolumn

/-- **The queries of a command name columns of fields in scope only**, over a complete catalog. -/
theorem grounded_of_parse {c : Catalog} (hc : c.Complete) {context : Context}
    {defaultName : String} {tokens : List String} {g : QueryGroup}
    (h : QueryGroup.parse c context defaultName tokens = .ok g) :
    ∀ q ∈ g.queries, q.Grounded ∧ q.scope.catalog = c := by
  obtain ⟨words, -, hparsed⟩ := parse_eq_ok h
  have hextra : ∀ f ∈ g.extra.fields, f.ReadIn (defaultScope c context) := readIn_of_parse h
  refine forall_mem_of_forall₂ hparsed.queries fun tokens q hbuild => ?_
  obtain ⟨w, tree, hw, hbuilt⟩ := buildQuery_eq_ok hbuild
  -- the scope of a query differs from the default one in its game type only
  have howns : ∀ {column : Column}, (defaultScope c context).Owns column → q.scope.Owns column := by
    intro column hcolumn
    rw [hbuilt.scope]
    exact hcolumn
  refine ⟨?_, by rw [hbuilt.scope]; rfl⟩
  constructor
  · rw [hbuilt.scope]
    exact QueryWords.game_mem hc hw
  · exact Query.joins_of_build hbuild
  · intro comparison hcomparison
    obtain ⟨name, hname⟩ := named_condition hbuilt comparison hcomparison
    rw [hbuilt.scope]
    exact Scope.owns_of_column hname
  · obtain ⟨name, hname⟩ := Query.orderNamed_of_build hbuild
    exact Scope.owns_of_column hname
  · rw [hbuilt.extra]
    exact fun f hf column hcolumn => howns ((hextra f hf).showsSelected.owns hcolumn)
  · rw [hbuilt.extra]
    exact fun f hf => (hextra f hf).pointless

/-! ## What statements are made of -/

namespace Query

variable {q : Query} {st : Statement}

theorem tables_of_states (h : q.States st) : st.tables = q.tables := by
  rcases h with rfl | rfl | h
  · rfl
  · rfl
  · obtain ⟨columns, -, h⟩ := bind_eq_ok.mp h
    rw [← Except.ok.inj h]

theorem condition_of_states (h : q.States st) : st.condition = q.condition := by
  rcases h with rfl | rfl | h
  · rfl
  · rfl
  · obtain ⟨columns, -, h⟩ := bind_eq_ok.mp h
    rw [← Except.ok.inj h]

theorem owns_of_mem_groupBy (h : q.States st) : ∀ c ∈ st.groupBy, q.scope.Owns c := by
  rcases h with rfl | rfl | h
  · nofun
  · nofun
  · obtain ⟨columns, hcolumns, h⟩ := bind_eq_ok.mp h
    obtain rfl := Except.ok.inj h
    intro c hc
    obtain ⟨f, -, hname⟩ := exists_of_mem_mapM hcolumns hc
    exact Scope.owns_of_column hname

/-- **Statements select** the count of rows, columns of fields in scope, and the extra columns. -/
theorem selected_cases (h : q.States st) {item : Selected} (hitem : item ∈ st.selected) :
    (item.expression = .countRows ∧ ∀ name, item.asName = some name → name = countAlias) ∨
      (∃ c, q.scope.Owns c ∧ item = ⟨.column c, none⟩) ∨ ∃ f ∈ q.extra.fields, item = f.selected := by
  rcases h with rfl | rfl | h
  · obtain rfl := List.mem_singleton.mp hitem
    exact .inl ⟨rfl, nofun⟩
  · rcases List.mem_append.mp hitem with hitem | hitem
    · obtain ⟨spec, hspec, rfl⟩ := List.mem_map.mp hitem
      exact .inr (.inl ⟨_, ⟨q.scope.context, List.mem_cons_self, rfl, spec, hspec, rfl⟩, rfl⟩)
    · obtain ⟨f, hf, rfl⟩ := List.mem_map.mp hitem
      have hextra : f ∈ q.extra.fields := by
        unfold rowExtras at hf
        split at hf
        · cases hf
        · exact hf
      exact .inr (.inr ⟨f, hextra, rfl⟩)
  · have hgroups := owns_of_mem_groupBy (.inr (.inr h))
    obtain ⟨columns, hcolumns, h⟩ := bind_eq_ok.mp h
    obtain rfl := Except.ok.inj h
    rcases List.mem_append.mp hitem with hitem | hitem
    · rcases List.mem_cons.mp hitem with rfl | hitem
      · exact .inl ⟨rfl, fun name hname => (Option.some.inj hname).symm⟩
      · obtain ⟨c, hc, rfl⟩ := List.mem_map.mp hitem
        exact .inr (.inl ⟨c, hgroups c hc, rfl⟩)
    · obtain ⟨f, hf, rfl⟩ := List.mem_map.mp hitem
      exact .inr (.inr ⟨f, hf, rfl⟩)

/-- **Statements are ordered** by the column of the query and the one that tells rows apart, or by the
count of groups. -/
theorem order_cases (h : q.States st) {term : OrderTerm} (hterm : term ∈ st.orderBy) :
    term.key = .column q.sortColumn ∨
      term.key = .column ⟨some q.scope.context.short, idField⟩ ∨ term.key = .named countAlias := by
  rcases h with rfl | rfl | h
  · cases hterm
  · rcases List.mem_cons.mp hterm with rfl | hterm
    · exact .inl rfl
    · obtain rfl := List.mem_singleton.mp hterm
      exact .inr (.inl rfl)
  · obtain ⟨columns, -, h⟩ := bind_eq_ok.mp h
    obtain rfl := Except.ok.inj h
    dsimp only at hterm
    split at hterm
    · obtain rfl := List.mem_singleton.mp hterm
      exact .inr (.inr rfl)
    · cases hterm

/-! ## Columns of statements -/

/-- The column of the field that milestones share with games. -/
def joinColumn (context : Context) : Column := ⟨some context.short, joinField⟩

theorem readEquality?_joinText :
    readEquality? (joinText .milestone .game) = some (joinColumn .milestone, joinColumn .game) := by
  decide +kernel

/-- A condition states no equality but that of milestones with their games. -/
theorem Joins.eq_joinText (h : q.Joins) {text : String} (htext : text ∈ q.condition.fixedTexts) :
    q.scope.context = .milestone ∧ text = joinText .milestone .game := by
  have hreads := h.readsItsTables
  cases hcontext : q.scope.context with
  | game =>
    rw [(hreads.game hcontext).2.2] at htext
    cases htext
  | milestone =>
    cases hjoined : q.joined with
    | false =>
      rw [(hreads.apart hcontext hjoined).2] at htext
      cases htext
    | true =>
      rw [(hreads.together hcontext hjoined).2] at htext
      exact ⟨rfl, List.mem_singleton.mp htext⟩

namespace Grounded

/-- **The statements of a grounded query name columns of fields in scope only**, if the catalog keeps
its keys. -/
theorem owns_columns (h : q.Grounded) (hcomplete : q.scope.catalog.Complete)
    (hkeys : q.scope.catalog.KeepsKeys) (hst : q.States st) : ∀ c ∈ st.columns, q.scope.Owns c := by
  have hid : q.scope.Owns ⟨some q.scope.context.short, idField⟩ :=
    ⟨q.scope.context, List.mem_cons_self, rfl, hkeys.hasColumn (.inl rfl) (hcomplete.id _)⟩
  have hjoin : ∀ {context}, context ∈ q.scope.context.inScope → q.scope.Owns (joinColumn context) :=
    fun hcontext => ⟨_, hcontext, rfl, hkeys.hasColumn (.inr rfl) (hcomplete.join _)⟩
  have hcondition := condition_of_states hst
  have hcompared : ∀ comparison ∈ st.condition.comparisons, q.scope.Owns comparison.column := by
    rw [hcondition]
    exact h.condition
  refine Statement.forall_mem_columns (fun item hitem c hc => ?_) hcompared
    (fun text htext a b hread => ?_) (owns_of_mem_groupBy hst) (fun term hterm c hkey => ?_)
  · rcases selected_cases hst hitem with ⟨hcount, -⟩ | ⟨column, howns, rfl⟩ | ⟨f, hf, rfl⟩
    · rw [hcount] at hc
      cases hc
    · cases hc
      exact howns
    · exact h.extra f hf c hc
  · rw [hcondition] at htext
    obtain ⟨hmilestone, rfl⟩ := h.joins.eq_joinText htext
    rw [readEquality?_joinText] at hread
    cases hread
    rw [hmilestone] at hjoin
    exact ⟨hjoin (by decide), hjoin (by decide)⟩
  · rcases order_cases hst hterm with hsort | htie | hcount
    · rw [hsort] at hkey
      cases hkey
      exact h.order
    · rw [htie] at hkey
      cases hkey
      exact hid
    · rw [hcount] at hkey
      cases hkey

/-- The statements of a grounded query over a legible catalog are legible. -/
theorem legible (h : q.Grounded) (hcomplete : q.scope.catalog.Complete)
    (hkeys : q.scope.catalog.KeepsKeys) (hlegible : q.scope.catalog.Legible) (hst : q.States st) :
    st.Legible := by
  constructor
  · exact fun c hc => (h.owns_columns hcomplete hkeys hst c hc).legible hlegible
  · intro function hfunction
    obtain ⟨item, hitem, happly⟩ := List.mem_filterMap.mp hfunction
    rcases selected_cases hst hitem with ⟨hcount, -⟩ | ⟨c, -, rfl⟩ | ⟨f, hf, rfl⟩
    · rw [hcount] at happly
      cases happly
    · cases happly
    · split at happly
      · rename_i given c hexpression
        obtain rfl := Option.some.inj happly
        exact (h.pointless f hf).function given c hexpression
      · cases happly
  · intro item hitem name hname
    rcases selected_cases hst hitem with ⟨-, hcount⟩ | ⟨c, -, rfl⟩ | ⟨f, hf, rfl⟩
    · rw [hcount name hname]
      decide
    · cases hname
    · exact (h.pointless f hf).asName name hname
  · intro term hterm name hkey
    rcases order_cases hst hterm with hsort | htie | hcount
    · rw [hsort] at hkey
      cases hkey
    · rw [htie] at hkey
      cases hkey
    · rw [hcount] at hkey
      cases hkey
      decide
  · intro text htext
    rw [condition_of_states hst] at htext
    obtain ⟨-, rfl⟩ := h.joins.eq_joinText htext
    exact ⟨joinColumn .milestone, joinColumn .game, by decide, readEquality?_joinText⟩

/-! ## Tables of statements -/

/-- **A column that a statement names is one of a table that it reads**: a column of games is named only
where games are joined. -/
theorem exists_table (h : q.Grounded) (hst : q.States st) {c : Column} (hc : c ∈ st.columns)
    {context : Context} (hcontext : context ∈ q.scope.context.inScope)
    (htable : c.table = some context.short) : q.scope.table context ∈ st.tables := by
  have hreads := h.joins.readsItsTables
  rw [tables_of_states hst]
  cases hscope : q.scope.context with
  | game =>
    rw [hscope] at hcontext
    obtain rfl : context = .game := List.mem_singleton.mp hcontext
    rw [(hreads.game hscope).2.1]
    exact List.mem_singleton.mpr rfl
  | milestone =>
    cases context with
    | milestone =>
      rw [tables, hscope]
      exact List.mem_cons_self
    | game =>
      have hnamed : st.reads Context.game.short = true := by
        refine List.any_eq_true.mpr ⟨c, hc, ?_⟩
        rw [Column.isOf, Column.text, htable]
        simp [startsWith]
      have hjoined := hreads.named hscope st hst hnamed
      rw [(hreads.together hscope hjoined).1]
      exact List.mem_cons_of_mem _ (List.mem_singleton.mpr rfl)

theorem tables_eq (h : q.Grounded) (hst : q.States st) :
    ∃ contexts : List Context, contexts.Nodup ∧ st.tables = contexts.map q.scope.table := by
  have hreads := h.joins.readsItsTables
  rw [tables_of_states hst]
  cases hscope : q.scope.context with
  | game => exact ⟨[.game], by decide, (hreads.game hscope).2.1⟩
  | milestone =>
    cases hjoined : q.joined with
    | false => exact ⟨[.milestone], by decide, (hreads.apart hscope hjoined).1⟩
    | true => exact ⟨[.milestone, .game], by decide, (hreads.together hscope hjoined).1⟩

/-- **The statements of a grounded query fit the declarations of its catalog.** -/
theorem fits (h : q.Grounded) (hcomplete : q.scope.catalog.Complete)
    (hkeys : q.scope.catalog.KeepsKeys) (hlegible : q.scope.catalog.Legible) (hst : q.States st) :
    st.Fits q.scope.catalog.declarations := by
  obtain ⟨contexts, hdistinct, htables⟩ := h.tables_eq hst
  have hcolumns : ∀ c ∈ st.columns, ∃ ref ∈ st.tables, c.table = some ref.short ∧
      Declares q.scope.catalog.declarations ref.table c.name := by
    intro c hc
    obtain ⟨context, hcontext, htable, hcolumn⟩ := h.owns_columns hcomplete hkeys hst c hc
    exact ⟨q.scope.table context, h.exists_table hst hc hcontext htable, htable,
      declares_of_hasColumn h.game hcolumn⟩
  constructor
  · rw [htables]
    intro ref href
    obtain ⟨context, -, rfl⟩ := List.mem_map.mp href
    exact ⟨_, Catalog.mem_declarations h.game context⟩
  · have hshort : Function.Injective Context.short := by
      intro a b hab
      cases a <;> cases b <;> first | rfl | exact absurd hab (by decide)
    rw [htables, List.map_map]
    exact List.Nodup.map hshort hdistinct
  · exact hcolumns
  · intro name hname
    obtain ⟨c, hc, rfl⟩ := (h.legible hcomplete hkeys hlegible hst).exists_column hname
    obtain ⟨ref, href, htable, hdeclares⟩ := hcolumns c hc
    exact ⟨ref, href, c.name, by rw [Column.text, htable], hdeclares⟩

end Grounded

end Query

/-! ## Every command -/

/-- **Queries and tables agree**, for every accepted catalog that is legible and keeps its keys: indexes
are by columns of their tables, and each statement of each query of every command fits the
declarations. -/
theorem queries_fit_schema {text : String} {c : Catalog} (hread : Catalog.read text = .ok c)
    (hlegible : c.Legible) (hkeys : c.KeepsKeys) :
    (∀ d ∈ c.declarations, d.Fits c.declarations) ∧
      ∀ context defaultName tokens g, QueryGroup.parse c context defaultName tokens = .ok g →
        ∀ q ∈ g.queries, ∀ st, q.States st → st.Fits c.declarations := by
  have hcomplete := Catalog.complete_of_read hread
  refine ⟨hcomplete.indexes_fit hkeys, fun context defaultName tokens g hparse q hq st hst => ?_⟩
  obtain ⟨hgrounded, rfl⟩ := grounded_of_parse hcomplete hparse q hq
  exact hgrounded.fits hcomplete hkeys hlegible hst

/-- The document of a catalog with two game types and one column that is not called as its field is. -/
def smallDocument : List String :=
  ["\x7b\"default_game_type\": \"crawl\",",
    "\"game_type_prefixes\": \x7b\"crawl\": \"\", \"sprint\": \"spr_\"\x7d,",
    "\"aggregate_function_types\": \x7b\"max\": \"integer\"\x7d,",
    "\"game_fields\": [\x7b\"name\": \"id\", \"kind\": \"integer\"\x7d,",
    "\x7b\"name\": \"game_key\", \"kind\": \"text\"\x7d,",
    "\x7b\"name\": \"xl\", \"kind\": \"integer\"\x7d,",
    "\x7b\"name\": \"end\", \"kind\": \"date\", \"column\": \"tend\"\x7d],",
    "\"milestone_fields\": [\x7b\"name\": \"id\", \"kind\": \"integer\"\x7d,",
    "\x7b\"name\": \"game_key\", \"kind\": \"text\"\x7d,",
    "\x7b\"name\": \"god\", \"kind\": \"text\"\x7d,",
    "\x7b\"name\": \"time\", \"kind\": \"date\"\x7d]\x7d"]

/-- The catalog of the document. -/
def smallCatalog : Catalog where
  defaultGame := "crawl"
  tablePrefixes := .ofList [("crawl", ""), ("sprint", "spr_")]
  functions := .ofList [("max", .only .integer)]
  aliases := .ofList []
  gameFields := [⟨"id", .integer, true, "id"⟩, ⟨"game_key", .text, true, "game_key"⟩,
    ⟨"xl", .integer, true, "xl"⟩, ⟨"end", .date, true, "tend"⟩]
  milestoneFields := [⟨"id", .integer, true, "id"⟩, ⟨"game_key", .text, true, "game_key"⟩,
    ⟨"god", .text, true, "god"⟩, ⟨"time", .date, true, "time"⟩]
  milestoneTypes := .ofList []

theorem read_smallDocument : Catalog.read (joinWith "\n" smallDocument) = .ok smallCatalog := by
  have hread : (Catalog.read (joinWith "\n" smallDocument)).toOption = some smallCatalog := by
    -- the characters of the lines are put together, and not those of one long text taken apart
    rw [Catalog.read, Document.read?, Json.Written.read?, joinWith, String.toList_intercalate]
    decide +kernel
  cases hresult : Catalog.read (joinWith "\n" smallDocument) with
  | error e =>
    rw [hresult] at hread
    cases hread
  | ok c =>
    rw [hresult] at hread
    exact congrArg Except.ok (Option.some.inj hread)

/-- The queries of a command about milestones that comes to join games fit the tables of the catalog. -/
theorem small_queries_fit_schema :
    Catalog.read (joinWith "\n" smallDocument) = .ok smallCatalog ∧ smallCatalog.Legible ∧
      smallCatalog.KeepsKeys ∧ (∀ d ∈ smallCatalog.declarations, d.Fits smallCatalog.declarations) ∧
      ∃ g, QueryGroup.parse smallCatalog .milestone "*"
          ["sprint", "s=god", "x=max(xl)", "max=end", "/", "xl>5"] = .ok g ∧
        g.primary.selectRows.columnNames = ["mst.id", "mst.game_key", "mst.god", "mst.time",
          "mst.game_key", "lg.game_key", "lg.tend", "mst.id"] ∧
        ∀ q ∈ g.queries, ∀ st, q.States st → st.Fits smallCatalog.declarations := by
  have hlegible : smallCatalog.Legible := by
    intro context
    cases context <;> decide +kernel
  have hkeys : smallCatalog.KeepsKeys := by
    intro context
    cases context <;> decide +kernel
  have hnames : (QueryGroup.parse smallCatalog .milestone "*"
      ["sprint", "s=god", "x=max(xl)", "max=end", "/", "xl>5"]).toOption.map (fun g =>
        g.primary.selectRows.columnNames) = some ["mst.id", "mst.game_key", "mst.god", "mst.time",
          "mst.game_key", "lg.game_key", "lg.tend", "mst.id"] := by decide +kernel
  obtain ⟨g, hparse, hnames⟩ := exists_ok_of_map hnames
  obtain ⟨hindexes, hqueries⟩ := queries_fit_schema read_smallDocument hlegible hkeys
  exact ⟨read_smallDocument, hlegible, hkeys, hindexes, g, hparse, hnames, hqueries _ _ _ g hparse⟩

end GameLog
