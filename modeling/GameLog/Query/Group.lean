import GameLog.Query.Basic
import GameLog.Query.Term
import GameLog.Report.Filter

/-!
# Queries that are reported together

A command is one query, or several fragments with `/` between them. The first fragment is the
primary query, and each further one narrows it. The clauses for extra columns and sorts and the
filters on report rows belong to the whole command and are taken out first, wherever they stand.

Main statements:
* `queries_ne_nil`: there is always a primary query;
* `fragments_append`: fragments with a slash before each further one are the tokens again.
-/

namespace GameLog

open GameLog.Text

/-- Queries that are reported together, the primary one first, with what orders and filters the
report. -/
structure QueryGroup where
  primary : Query
  others : List Query
  sorts : List SortCondition
  filters : List RowFilter
  extra : ExtraList
  description : String

namespace QueryGroup

/-- All queries in order. -/
def queries (g : QueryGroup) : List Query := g.primary :: g.others

/-- There is always a primary query. -/
theorem queries_ne_nil (g : QueryGroup) : g.queries ≠ [] := by simp [queries]

/-- Whether there are several queries, whose counts are shown as ratios. -/
def isRatio (g : QueryGroup) : Bool := !g.others.isEmpty

/-- The word for one of the rows that the queries count. -/
def entity (g : QueryGroup) : String := g.primary.scope.context.entity

end QueryGroup

/-! ## One query -/

/-- What is asked of a query besides its terms. -/
structure QueryWords where
  random : Bool
  group : Option GroupList
  actor : Actor
  index : Int
  game : String
  rowSorts : List String
  terms : List String

/-- The only clause of a sort, if there is one; a second one is refused. -/
def onlyClause : List String → Except QueryError (Option String)
  | [] => .ok none
  | [clause] => .ok (some clause)
  | _ :: second :: _ => .error (.malformed second)

/-- The scope of a catalog and a context under the default game type. -/
def defaultScope (c : Catalog) (context : Context) : Scope := ⟨c, context, c.defaultGame⟩

/-- The words of a query taken apart: markers and clauses, then, after operators are put back, the
actor, the index, the game type and the row sorts. -/
def QueryWords.read (c : Catalog) (context : Context) (defaultName : String)
    (tokens : List String) : Except QueryError QueryWords := do
  let (markers, tokens) := takeAll isRandomMarker tokens
  let (clauses, tokens) := takeAll isGroupClause tokens
  let group ← (← onlyClause clauses).mapM fun clause =>
    (GroupList.parse (defaultScope c context) clause).fresh
  let (actorToken, tokens) := takeFirst isActorToken (rejoin tokens)
  let actor ← Actor.read defaultName actorToken
  let (indexToken, tokens) := takeFirst isIndex tokens
  let index ← match indexToken with
    | some token => readIndex token
    | none => pure 0
  let (gameToken, tokens) := takeFirst (fun token => (c.gameType? token).isSome) tokens
  let game := (gameToken.bind c.gameType?).getD c.defaultGame
  let (rowSorts, terms) := takeAll (fun token => (rowSort? token).isSome) tokens
  return ⟨!markers.isEmpty, group, actor, index, game, rowSorts, terms⟩

/-- A query with the condition of its terms. Parts that hold together are added one by one. -/
def addTerms (q : Query) (condition : Condition) : Query :=
  match condition with
  | .joined .and parts => parts.foldl (fun q part => q.addCondition .and part) q
  | other => q.addCondition .and other

/-- A query with its row sorts applied, of which the last one counts. -/
def addRowSorts (q : Query) (tokens : List String) : Except QueryError Query :=
  (tokens.filterMap rowSort?).foldlM (fun q (largest, field) => q.setRowSort field largest) q

/-- A query with its groups, beside which extra columns have to be aggregate. -/
def addGroup (q : Query) (extra : ExtraList) : Option GroupList → Except QueryError Query
  | none => .ok q
  | some list =>
    if !extra.isEmpty && !extra.isAggregate then .error (.mixedKinds extra.source)
    else .ok (q.setGroup list)

/-- The query that the tokens of one fragment ask for. -/
def buildQuery (c : Catalog) (context : Context) (defaultName : String) (extra : ExtraList)
    (tokens : List String) : Except QueryError Query := do
  let words ← QueryWords.read c context defaultName tokens
  let scope : Scope := ⟨c, context, words.game⟩
  let q ← Query.start scope words.actor words.index (describe words.actor (joinWith " " tokens))
  let condition ← readTerms scope words.terms
  let q ← addRowSorts (addTerms (q.setRandom words.random) condition) words.rowSorts
  let q ← addGroup q extra words.group
  return q.setExtra extra

/-! ## Fragments -/

/-- The word between fragments. -/
def fragmentToken : String := "/"

/-- Tokens in fragments: the first one, and those behind each slash. -/
def fragments : List String → List String × List (List String)
  | [] => ([], [])
  | token :: rest =>
    let (first, others) := fragments rest
    if token = fragmentToken then ([], first :: others) else (token :: first, others)

/-- Fragments with a slash before each further one are the tokens again. -/
theorem fragments_append (tokens : List String) :
    (fragments tokens).1 ++ (fragments tokens).2.flatMap (fragmentToken :: ·) = tokens := by
  induction tokens with
  | nil => rfl
  | cons token rest ih =>
    simp only [fragments]
    split
    · rename_i h
      simp [h, ih]
    · simp [ih]

/-! ## The whole command -/

/-- What belongs to a whole command: extra columns, sorts and filters, and the tokens left. -/
structure CommandWords where
  extra : ExtraList
  sorts : List SortCondition
  filters : List RowFilter
  tokens : List String

/-- The words of a command that stand for the whole of it taken out. -/
def CommandWords.read (s : Scope) (tokens : List String) : Except QueryError CommandWords := do
  let (clauses, tokens) := takeAll isExtraClause tokens
  let extra ← match ← onlyClause clauses with
    | some clause => (ExtraList.parse s clause).fresh
    | none => pure .none
  let (clauses, tokens) := takeAll isSortClause tokens
  let sorts ← clauses.mapM (parseSorts extra)
  let (filters, tokens) := takeAll (fun token => (RowFilter.parse? extra token).isSome) tokens
  return ⟨extra, sorts.flatten, filters.filterMap (RowFilter.parse? extra), tokens⟩

/-- The sorts of a command with several fragments: by ratio if none are asked for. -/
def ratioSorts (extra : ExtraList) (sorts : List SortCondition) :
    Except QueryError (List SortCondition) :=
  if sorts.isEmpty then parseSorts extra "o=%" else .ok sorts

/-- The extra columns of a command with several fragments: the count of rows if none are asked for
and there are no groups. -/
def ratioExtra (s : Scope) (primary : List String) (extra : ExtraList) :
    Except QueryError ExtraList :=
  if extra.isEmpty && !primary.any isGroupClause then (ExtraList.parse s "x=n").fresh else .ok extra

/-- The sorts of a report if none are asked for: those of the extra columns, or else of the groups.
-/
def reportSorts (extra : ExtraList) (group : Option GroupList) (sorts : List SortCondition) :
    List SortCondition :=
  match sorts, group with
  | [], some list => if extra.isEmpty then [list.defaultSort] else extra.defaultSorts
  | sorts, _ => sorts

/-- The queries that the tokens of a command ask for. -/
def QueryGroup.parse (c : Catalog) (context : Context) (defaultName : String)
    (tokens : List String) : Except QueryError QueryGroup := do
  let input := joinWith " " tokens
  let scope := defaultScope c context
  let words ← CommandWords.read scope tokens
  let (first, others) := fragments words.tokens
  let sorts ← if others.isEmpty then pure words.sorts else ratioSorts words.extra words.sorts
  let extra ← if others.isEmpty then pure words.extra else ratioExtra scope first words.extra
  let build := buildQuery c context defaultName extra
  let primary ← build first
  let queries ← others.mapM fun fragment => build (first ++ fragment)
  if !queries.isEmpty && !(primary :: queries).all Query.isAggregate then
    throw (.mixedFragments input)
  return ⟨primary, queries, reportSorts extra primary.group sorts, words.filters, extra,
    describe primary.actor input⟩

end GameLog
