import GameLog.Query.Grouping
import GameLog.Query.Token
import GameLog.Statement.Basic

/-!
# Queries

A query reads the rows of one context under a condition. It starts from the rows of its actor in the
order of time; conditions, extra columns, groups and another order are added to it. A query about
milestones that reads any column of games is joined with the games, once, by the field that both
share.

Main statements:
* `fixupJoin_joined`: a joined query is left as it is;
* `reverse_reverse`: turning the order around twice gives the order back.
-/

namespace GameLog

open GameLog.Text

/-- A query: its scope, the words it came from, its actor, which row is asked for, the condition,
the order of rows, whether games are joined, the groups and the extra columns, and whether the row
is picked at random. -/
structure Query where
  scope : Scope
  source : String
  actor : Actor
  index : Int
  condition : Condition
  sortColumn : Column
  sortDirection : Direction
  joined : Bool
  group : Option GroupList
  extra : ExtraList
  random : Bool

/-- A column of a fetched row, by its name and the kind of its values. -/
structure RowColumn where
  name : String
  kind : Option Kind
deriving DecidableEq, Repr

namespace Query

/-! ## Joining games -/

/-- The equality that joins two tables. -/
def joinText (near far : Context) : String :=
  near.short ++ "." ++ joinField ++ " = " ++ far.short ++ "." ++ joinField

/-- A query joined with the context that its own falls back to, if there is one. -/
def fixupJoin (q : Query) : Query :=
  match q.joined, q.scope.context.fallback? with
  | false, some far =>
    { q with
      joined := true
      condition := q.condition.add .and (.fixed (joinText q.scope.context far)) }
  | _, _ => q

/-- Whether a selected expression mentions a table by its short name. -/
def mentions (table : String) (e : Expression) : Bool :=
  occurs (table ++ ".").toList e.text.toList

/-- Whether a query reads a column of games. -/
def readsGames (q : Query) : Bool :=
  let table := Context.game.short
  q.condition.references table || q.sortColumn.isOf table ||
    q.extra.fields.any fun f => mentions table f.selected.expression

/-- A query about milestones that reads a column of games, joined with them. -/
def checkJoins (q : Query) : Query :=
  if q.joined || q.scope.context.fallback?.isNone then q
  else if q.readsGames then q.fixupJoin
  else q

/-- A joined query is left as it is. -/
theorem fixupJoin_joined {q : Query} (h : q.joined = true) : q.fixupJoin = q := by
  simp [fixupJoin, h]

/-! ## Building -/

/-- A query for the rows of an actor in the order of the default sort of its context. -/
def start (s : Scope) (actor : Actor) (index : Int) (source : String) :
    Except QueryError Query := do
  let column ← s.column s.context.defaultSort
  let condition ← match actor with
    | .anyone => pure .always
    | .named name => do
      let column ← s.column actorField
      pure (Condition.always.add .and (.compare ⟨column, .eq, .text name⟩))
  return Query.checkJoins {
    scope := s, source := source, actor := actor, index := index, condition := condition,
    sortColumn := column, sortDirection := .ascending, joined := false, group := none,
    extra := .none, random := false }

/-- A query with its condition extended. -/
def addCondition (q : Query) (joint : Joint) (node : Condition) : Query :=
  { q with condition := q.condition.add joint node }.checkJoins

/-- A query with other extra columns. -/
def setExtra (q : Query) (extra : ExtraList) : Query := { q with extra := extra }.checkJoins

/-- A query whose first row is the one with the least value of a field, or with the greatest. The
row asked for is counted from the last. -/
def setRowSort (q : Query) (field : String) (largest : Bool) : Except QueryError Query := do
  let field ← q.scope.canonical field
  let column ← q.scope.column field
  return { q with
    sortColumn := column
    sortDirection := if largest then .ascending else .descending }.checkJoins

/-- A query for a row picked at random, or not. -/
def setRandom (q : Query) (random : Bool) : Query := { q with random := random }

/-! ## Grouping -/

/-- The comparison that keeps milestones of the type that a group field stands for. -/
def pivotCondition? (s : Scope) (f : GroupField) : Option Condition :=
  if s.isPivot f.field then
    match s.column verbField with
    | .ok column => some (.compare ⟨column, .eq, .text f.field⟩)
    | .error _ => none
  else none

/-- The field that rows are really grouped by: the object of the milestone for a milestone type. -/
def onNoun (s : Scope) (f : GroupField) : GroupField :=
  if (pivotCondition? s f).isSome then { f with field := nounField } else f

/-- A query with groups. Milestone types become conditions, and a field of games joins them. -/
def setGroup (q : Query) (list : GroupList) : Query :=
  let conditions := list.fields.filterMap (pivotCondition? q.scope)
  let list := list.map (onNoun q.scope)
  let q := { q with
    condition := conditions.foldl (fun c node => c.add .and node) q.condition
    group := some list }
  let far := list.fields.any fun f => !q.scope.directlySummarisable f.field
  (if far then q.fixupJoin else q).checkJoins

/-- Whether a query reports groups, or only aggregate columns. -/
def isAggregate (q : Query) : Bool := q.group.isSome || q.extra.isAggregate

/-- The fields that a query groups by. -/
def groupFields (q : Query) : List GroupField := (q.group.map GroupList.fields).getD []

/-! ## Order -/

/-- The query with its order turned around, for a row that is not picked at random. -/
def reverse (q : Query) : Query := { q with sortDirection := q.sortDirection.flip, random := false }

/-- Turning the order around twice gives the order back. -/
theorem reverse_reverse (q : Query) : q.reverse.reverse = q.setRandom false := by
  simp [reverse, setRandom]

/-- The order of rows; the field that tells rows apart breaks ties in the same direction. -/
def rowOrder (q : Query) : List OrderTerm :=
  [⟨.column q.sortColumn, q.sortDirection⟩,
    ⟨.column ⟨some q.scope.context.short, idField⟩, q.sortDirection⟩]

/-! ## Statements -/

/-- The tables that a query reads. -/
def tables (q : Query) : List TableRef :=
  q.scope.table q.scope.context ::
    if q.joined then (q.scope.context.fallback?.map q.scope.table).toList else []

/-- The extra columns of fetched rows. -/
def rowExtras (q : Query) : List ExtraField := if q.extra.isAggregate then [] else q.extra.fields

/-- The columns of fetched rows: the fields of the context and then the extra columns. -/
def rowColumns (q : Query) : List RowColumn :=
  (q.scope.catalog.fields q.scope.context).map (fun spec => ⟨spec.name, some spec.kind⟩) ++
    q.rowExtras.map fun f => ⟨f.label, f.kind⟩

/-- The statement that reads rows. -/
def selectRows (q : Query) : Statement where
  selected :=
    (q.scope.catalog.fields q.scope.context).map (fun spec =>
      ⟨.column (Scope.columnOf q.scope.context spec), none⟩) ++ q.rowExtras.map (·.selected)
  tables := q.tables
  condition := q.condition
  groupBy := []
  orderBy := q.rowOrder

/-- The statement that counts rows. -/
def selectCount (q : Query) : Statement where
  selected := [⟨.countRows, none⟩]
  tables := q.tables
  condition := q.condition
  groupBy := []
  orderBy := []

/-- The alias of the count of a group. -/
def countAlias : String := "fieldcount"

/-- The statement that reads groups. It orders them by count if there is one field to group by. -/
def selectGroups (q : Query) : Except QueryError Statement := do
  let columns ← q.groupFields.mapM fun f => q.scope.column f.field
  return {
    selected := ⟨.countRows, some countAlias⟩ :: columns.map (fun c => ⟨.column c, none⟩) ++
      q.extra.fields.map (·.selected)
    tables := q.tables
    condition := q.condition
    groupBy := columns
    orderBy := match q.groupFields with
      | [f] => [⟨.named countAlias, f.direction⟩]
      | _ => [] }

end Query

end GameLog
