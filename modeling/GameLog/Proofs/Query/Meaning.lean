import GameLog.Catalog.Builtin
import GameLog.Proofs.Query.Building
import GameLog.Proofs.Statement.WhereText

/-!
# The condition of a query by its text

The statements of a query carry its condition as a text and a list of values. Read by the precedence
of the store, that text is true of a row exactly if the actor, the terms and the milestone types ask
for the row, and the row is joined with its game if the query is. Columns are pasted into the text,
so this is so where they are plain names (`Catalog.Legible`).

Main statements:
* `legible_condition`: every condition over legible columns is legible;
* `queries_mean_tokens`: each query of a command means its tokens;
* `queries_misread`: over columns that are no plain names it may mean something else.
-/

namespace GameLog

open GameLog.Text

/-! ## Legible catalogs -/

/-- **A catalog is legible**: every column of it is a plain name of the store. -/
def Catalog.Legible (c : Catalog) : Prop :=
  ∀ context, ∀ spec ∈ c.fields context, Store.isBareWord spec.column.toList = true

theorem isNamePart_of_isBareWord {cs : List Char} (h : Store.isBareWord cs = true) :
    cs.all isNamePart = true := by
  cases cs with
  | nil => cases h
  | cons first rest =>
    simp only [Store.isBareWord, Bool.and_eq_true, List.all_eq_true] at h
    obtain ⟨hfirst, hrest⟩ := h
    have hhead : isNamePart first = true := by simp [isNamePart, Store.inName, hfirst]
    rw [List.all_cons, hhead, Bool.true_and, List.all_eq_true]
    intro c hc
    simp [isNamePart, hrest c hc]

theorem legible_builtin : Catalog.builtin.Legible := by
  have hall : [Context.game, .milestone].all (fun context =>
      (Catalog.builtin.fields context).all fun spec =>
        Store.isBareWord spec.column.toList) = true := by
    decide +kernel
  intro context
  have hcontext : context ∈ [Context.game, .milestone] := by cases context <;> simp
  exact List.all_eq_true.mp (List.all_eq_true.mp hall context hcontext)

theorem legible_column (context : Context) {name : String}
    (h : name.toList.all isNamePart = true) : Column.Legible ⟨some context.short, name⟩ := by
  constructor
  · refine ⟨context.short, rfl, ?_⟩
    cases context <;> decide
  · have hshort : context.short.toList.all isNamePart = true := by cases context <;> decide
    simp only [Column.text, String.toList_append, List.all_append, hshort, h, Bool.true_and,
      Bool.and_true]
    decide

namespace Scope

theorem mem_fields_of_resolve? {s : Scope} {name : String} {context : Context} {spec : FieldSpec}
    (h : s.resolve? name = some (.field context spec)) : spec ∈ s.catalog.fields context := by
  have hown : ∀ {near : Context} {field : String},
      ownerIn? s.catalog near field = some (.field context spec) →
        spec ∈ s.catalog.fields context := by
    intro near field howner
    unfold ownerIn? at howner
    split at howner
    · rename_i found hfound
      obtain ⟨rfl, rfl⟩ := Owner.field.inj (Option.some.inj howner)
      exact List.mem_of_find?_eq_some hfound
    · split at howner <;> cases howner
  unfold resolve? at h
  split at h
  · obtain ⟨near, -, howner⟩ := Option.bind_eq_some_iff.mp h
    exact hown howner
  · obtain ⟨near, -, howner⟩ := List.exists_of_findSome?_eq_some h
    exact hown howner

theorem legible_of_column {s : Scope} (hc : s.catalog.Legible) {name : String} {found : Column}
    (h : s.column name = .ok found) : found.Legible := by
  unfold column at h
  split at h
  · rename_i context spec hres
    obtain rfl := Except.ok.inj h
    have hplain := hc context spec (mem_fields_of_resolve? hres)
    exact legible_column context (isNamePart_of_isBareWord hplain)
  · cases h

end Scope

/-! ## The columns of a query -/

/-- A term compares the column of a name in scope. -/
theorem column_of_readTerm {s : Scope} {token : String} {c : Comparison}
    (h : readTerm s token = .ok c) : ∃ name, s.column name = .ok c.column := by
  unfold readTerm at h
  split at h
  · obtain ⟨field, -, h⟩ := bind_eq_ok.mp h
    obtain ⟨column, hcolumn, h⟩ := bind_eq_ok.mp h
    refine ⟨field, ?_⟩
    rw [hcolumn]
    unfold Comparison.bind at h
    split at h
    · rw [← Except.ok.inj h]
    · split at h
      · rw [← Except.ok.inj h]
      · cases h
  · cases h

/-- **The comparisons that words ask for are of columns that names in scope stand for.** -/
theorem named_comparisons {s : Scope} {w : QueryWords} {tree : TermTree} {extra : ExtraList}
    {q : Query} (h : q.BuiltFrom w s tree extra) :
    ∀ comparison ∈ w.comparisons s tree, ∃ name, s.column name = .ok comparison.column := by
  unfold QueryWords.comparisons
  rw [List.forall_mem_append, List.forall_mem_append]
  refine ⟨⟨?_, ?_⟩, ?_⟩
  · intro comparison hmem
    cases hactor : w.actor with
    | anyone => simp [hactor, Scope.actorComparisons] at hmem
    | named name =>
      obtain ⟨column, hcolumn⟩ := h.actorColumn (by simp [hactor])
      rw [hactor, Scope.actorComparisons, List.mem_singleton, Scope.columnAt_eq hcolumn] at hmem
      rw [hmem]
      exact ⟨actorField, hcolumn⟩
  · intro comparison hmem
    obtain ⟨token, htoken, rfl⟩ := List.mem_map.mp hmem
    exact column_of_readTerm (Scope.readTerm_of_accepts (h.derives.accepts token htoken))
  · intro comparison hmem
    unfold Scope.pivotComparisons at hmem
    split at hmem
    · rename_i hverb
      obtain ⟨f, -, rfl⟩ := List.mem_map.mp hmem
      obtain ⟨column, hcolumn⟩ := Option.isSome_iff_exists.mp hverb
      cases hread : s.column verbField with
      | error e => simp [hread, Except.toOption] at hcolumn
      | ok found => exact ⟨verbField, by rw [Scope.columnAt_eq hread, hread]⟩
    · cases hmem

theorem named_condition {s : Scope} {w : QueryWords} {tree : TermTree} {extra : ExtraList}
    {q : Query} (h : q.BuiltFrom w s tree extra) :
    ∀ comparison ∈ q.condition.comparisons, ∃ name, s.column name = .ok comparison.column := by
  rw [h.means.comparisons_eq]
  exact named_comparisons h

theorem isEquality_joinText (near far : Context) : IsEquality (Query.joinText near far) :=
  ⟨⟨some near.short, joinField⟩, ⟨some far.short, joinField⟩,
    legible_column near (by decide), legible_column far (by decide), by
      simp [Query.joinText, Column.text, String.append_assoc]⟩

/-- The condition of a built query is legible. -/
theorem legible_condition {s : Scope} (hc : s.catalog.Legible) {w : QueryWords} {tree : TermTree}
    {extra : ExtraList} {q : Query} (h : q.BuiltFrom w s tree extra) : q.condition.Legible := by
  constructor
  · intro comparison hmem
    obtain ⟨name, hname⟩ := named_condition h comparison hmem
    exact Scope.legible_of_column hc hname
  · rw [h.means.fixedTexts_eq]
    intro text htext
    unfold Query.joinTexts at htext
    split at htext
    · obtain ⟨far, -, rfl⟩ := Option.map_eq_some_iff.mp (Option.mem_toList.mp htext)
      exact isEquality_joinText q.scope.context far
    · cases htext

/-! ## Reading the condition of a statement -/

/-- The text behind the keyword of a condition. Without a condition there is no keyword. -/
def behindWhere? (clause : String) : Option String :=
  if clause = "" then some ""
  else if startsWith clause " WHERE " then some (String.ofList (clause.toList.drop 7))
  else none

/-- **What the condition of a statement says by its text**, with values for its question marks. -/
def readWhere? (a : Assignment) (clause : String) (values : List Cell) : Option Bool :=
  (behindWhere? clause).bind fun text => Condition.readText? a text values

theorem behindWhere?_whereClause (st : Statement) :
    behindWhere? st.whereClause = some st.condition.text := by
  unfold Statement.whereClause
  by_cases hempty : st.condition.text = ""
  · rw [if_pos hempty, hempty]
    rfl
  · rw [if_neg hempty]
    have hne : " WHERE " ++ st.condition.text ≠ "" := by
      intro h
      have := congrArg String.toList h
      simp at this
    have hstart : startsWith (" WHERE " ++ st.condition.text) " WHERE " = true := by
      simp [startsWith]
    rw [behindWhere?, if_neg hne, if_pos hstart]
    simp

theorem readWhere?_whereClause (a : Assignment) {st : Statement} (h : st.condition.Legible) :
    readWhere? a st.whereClause st.params = some (st.condition.holds a) := by
  rw [readWhere?, behindWhere?_whereClause]
  exact Condition.readText?_text a h

/-! ## Queries mean their tokens -/

/-- **A query means its tokens**: they are words with a tree of terms, the values of its statement
are those of the comparisons with the actor, with each term in order and with each milestone type,
and the text of its condition is true exactly if all of these ask for the row, terms by their tree,
and so does the equality of the join if the query is joined. -/
def Query.Means (c : Catalog) (context : Context) (defaultName : String) (tokens : List String)
    (q : Query) : Prop :=
  ∃ words tree, QueryWords.read c context defaultName tokens = .ok words ∧
    tree.Derives (words.scope c context) words.terms ∧
    q.selectCount.params =
      (words.comparisons (words.scope c context) tree).map Comparison.value ∧
    ∀ a, readWhere? a q.selectCount.whereClause q.selectCount.params =
      some (words.meaning (words.scope c context) tree a && q.joinTexts.all a.fixed)

theorem means_of_builtFrom {c : Catalog} (hc : c.Legible) {context : Context}
    {defaultName : String} {extra : ExtraList} {tokens : List String} {q : Query}
    (h : buildQuery c context defaultName extra tokens = .ok q) :
    q.Means c context defaultName tokens := by
  obtain ⟨words, tree, hwords, hbuilt⟩ := buildQuery_eq_ok h
  refine ⟨words, tree, hwords, hbuilt.derives, ?_, fun a => ?_⟩
  · rw [← hbuilt.means.comparisons_eq]
    rfl
  · have hscope : (words.scope c context).catalog.Legible := hc
    have hlegible : q.selectCount.condition.Legible := legible_condition hscope hbuilt
    rw [readWhere?_whereClause a hlegible, ← hbuilt.means.holds_eq a]
    rfl

/-- **Each query of a command means its tokens**, for any command over a legible catalog: the first
those of the first fragment, each further one those with its own fragment behind them. -/
theorem queries_mean_tokens {c : Catalog} (hc : c.Legible) {context : Context}
    {defaultName : String} {tokens : List String} {g : QueryGroup}
    (h : QueryGroup.parse c context defaultName tokens = .ok g) :
    ∃ words, CommandWords.read (defaultScope c context) tokens = .ok words ∧
      List.Forall₂ (Query.Means c context defaultName) words.queryTokens g.queries := by
  obtain ⟨words, hwords, hparsed⟩ := parse_eq_ok h
  exact ⟨words, hwords, hparsed.queries.imp fun _ _ hbuilt => means_of_builtFrom hc hbuilt⟩

/-- Over the built-in catalog, a command with a group of alternatives and a milestone type to group
by has queries that mean its tokens. -/
theorem builtin_queries_mean_tokens : Catalog.builtin.Legible ∧
    ∃ g, QueryGroup.parse .builtin .milestone "*"
        ["@ann", "((", "xl>5", "||", "sc>9", "))", "s=br.enter"] = .ok g ∧
      ∃ words, CommandWords.read (defaultScope .builtin .milestone)
          ["@ann", "((", "xl>5", "||", "sc>9", "))", "s=br.enter"] = .ok words ∧
        List.Forall₂ (Query.Means .builtin .milestone "*") words.queryTokens g.queries := by
  have hone : (QueryGroup.parse .builtin .milestone "*"
      ["@ann", "((", "xl>5", "||", "sc>9", "))", "s=br.enter"]).toOption.map
        (fun g => g.queries.length) = some 1 := by decide +kernel
  obtain ⟨g, hparse, -⟩ := exists_ok_of_map hone
  exact ⟨legible_builtin, g, hparse, queries_mean_tokens legible_builtin hparse⟩

/-! ## Columns that are no names -/

/-- A catalog whose column for gods is no name but a piece of a condition. -/
def pastedCatalog : Catalog where
  defaultGame := "crawl"
  tablePrefixes := .ofList [("crawl", "")]
  functions := .ofList []
  aliases := .ofList []
  gameFields := [⟨"id", .integer, false, "id"⟩, ⟨"game_key", .text, false, "game_key"⟩,
    ⟨"end", .date, true, "tend"⟩, ⟨"god", .text, true, "god = lg.god OR lg.god"⟩]
  milestoneFields := [⟨"id", .integer, false, "id"⟩, ⟨"game_key", .text, false, "game_key"⟩]
  milestoneTypes := .ofList []

theorem TermTree.Derives.holds_single {s : Scope} {tree : TermTree} {token : String}
    (h : tree.Derives s [token]) (hs : s.accepts token = true) (a : Assignment) :
    tree.holds (fun token => a.comparison (s.comparison token)) =
      a.comparison (s.comparison token) := by
  have hread := Scope.readTerm_of_accepts hs
  obtain ⟨hor, hopen, hclose⟩ := ne_of_readTerm hread
  have hcondition := h.readTerms_eq.symm.trans (readTerms_single hor hopen hclose)
  rw [hread] at hcondition
  rw [← TermTree.holds_condition a s.comparison h.fits, Except.ok.inj hcondition,
    Condition.holds]

/-- **Over columns that are no names a query may mean something else**: the text of this one is true
of every row whose god equals itself, although the only term is true of none. -/
theorem queries_misread : ¬ ∀ (c : Catalog) (context : Context) (defaultName : String)
    (tokens : List String) (g : QueryGroup),
    QueryGroup.parse c context defaultName tokens = .ok g →
      ∃ words, CommandWords.read (defaultScope c context) tokens = .ok words ∧
        List.Forall₂ (Query.Means c context defaultName) words.queryTokens g.queries := by
  intro hmeans
  have hclause : (QueryGroup.parse pastedCatalog .game "*" ["god=x"]).toOption.map (fun g =>
      (g.primary.selectCount.whereClause, g.primary.selectCount.params)) =
      some (" WHERE lg.god = lg.god OR lg.god = ?", [.text "x"]) := by decide +kernel
  have hfirst : (CommandWords.read (defaultScope pastedCatalog .game) ["god=x"]).toOption.map
      CommandWords.first = some ["god=x"] := by decide +kernel
  have hterms : (QueryWords.read pastedCatalog .game "*" ["god=x"]).toOption.map (fun words =>
      (words.terms, words.game)) = some (["god=x"], "crawl") := by decide +kernel
  obtain ⟨g, hparse, hclause⟩ := exists_ok_of_map hclause
  obtain ⟨hwhere, hparams⟩ := Prod.mk.inj hclause
  obtain ⟨w, hw, hall⟩ := hmeans pastedCatalog .game "*" ["god=x"] g hparse
  obtain ⟨words, tree, hread, hderives, -, htrue⟩ := (List.forall₂_cons.mp hall).1
  rw [hw] at hfirst
  have htokens : w.first = ["god=x"] := Option.some.inj hfirst
  rw [htokens] at hread
  rw [hread] at hterms
  obtain ⟨hsingle, hgame⟩ := Prod.mk.inj (Option.some.inj hterms)
  rw [hsingle] at hderives
  -- no comparison is true, but every equality is
  have hone := htrue ⟨fun _ => false, fun _ => true⟩
  have hrow : readWhere? ⟨fun _ => false, fun _ => true⟩
      " WHERE lg.god = lg.god OR lg.god = ?" [.text "x"] = some true := by decide +kernel
  rw [hwhere, hparams, hrow] at hone
  have haccepts : (words.scope pastedCatalog .game).accepts "god=x" = true := by
    rw [QueryWords.scope, hgame]
    decide +kernel
  have hfalse := hderives.holds_single haccepts ⟨fun _ => false, fun _ => true⟩
  simp only [QueryWords.meaning, hfalse] at hone
  simp at hone

end GameLog
