import GameLog.Query.Clause
import GameLog.Scope

/-!
# Extra columns

A query may ask for further columns: plain fields, the count of rows, or functions of fields. All of
one list are aggregate or none is. Columns that are computed are selected under aliases, which are
numbered through a request.

Main statements:
* `freshAlias_run`: an alias is its stem and the next number;
* `isAggregate_of_parse`: the fields of an accepted list are aggregate as the list is.
-/

namespace GameLog

open GameLog.Text

/-! ## Aliases -/

/-- A computation that may fail and that counts the aliases given out. -/
abbrev Naming (α : Type) := ExceptT QueryError (StateM Nat) α

/-- The result of a computation that gives out aliases from the first one on. -/
def Naming.fresh {α : Type} (x : Naming α) : Except QueryError α := (x.run 0).1

theorem Naming.run_bind {α β : Type} (x : Naming α) (f : α → Naming β) (n : Nat) :
    (x >>= f).run n = match x.run n with
      | (.ok a, k) => (f a).run k
      | (.error e, k) => (.error e, k) := by
  change ExceptT.bindCont f (x n).1 (x n).2 = match x n with
    | (.ok a, k) => (f a).run k
    | (.error e, k) => (.error e, k)
  rcases x n with ⟨_ | a, k⟩ <;> rfl

/-- The next alias with a stem. -/
def freshAlias (stem : String) : Naming String := do
  modify (· + 1)
  return stem ++ "_" ++ natText (← get)

/-- An alias is its stem and the next number. -/
theorem freshAlias_run (stem : String) (n : Nat) :
    (freshAlias stem).run n = (.ok (stem ++ "_" ++ natText (n + 1)), n + 1) := rfl

/-! ## Fields -/

/-- What an extra column shows. -/
inductive Projection
  | field (name : String)
  | count
  | aggregate (function field : String)
deriving DecidableEq, Repr

/-- An extra column: what it shows, in which direction reports order it, how it is selected, and
what it is called. -/
structure ExtraField where
  projection : Projection
  direction : Direction
  selected : Selected
  label : String
  kind : Option Kind
deriving DecidableEq, Repr

/-- Whether a column is computed from a group of rows. -/
def ExtraField.isAggregate (f : ExtraField) : Bool :=
  match f.projection with
  | .field _ => false
  | _ => true

/-- The extra columns of a query and the clause that asks for them. -/
structure ExtraList where
  fields : List ExtraField
  source : String
deriving DecidableEq, Repr

namespace ExtraList

/-- No extra columns. -/
def none : ExtraList := ⟨[], ""⟩

/-- Whether there are no extra columns. -/
def isEmpty (l : ExtraList) : Bool := l.fields.isEmpty

/-- Whether the columns are computed from groups of rows. -/
def isAggregate (l : ExtraList) : Bool := l.fields.head?.any ExtraField.isAggregate

/-- The place of the column of a label, in any letter case. -/
def place? (l : ExtraList) (label : String) : Option Nat :=
  l.fields.findIdx? fun f => sameLetters f.label label

end ExtraList

/-! ## Reading -/

/-- The alias stem of a name: what may not stand in an alias becomes an underscore. -/
def aliasStem (name : String) : String :=
  String.ofList (name.toList.map fun c => if c.isAlphanum || c == '_' then c else '_')

/-- The name of the function that counts distinct values. -/
def distinctCount : String := "cdist"

/-- A function of a column. -/
def applied (function : String) (c : Column) : Expression :=
  if function = distinctCount then .countDistinct c else .apply function c

/-- The kind of the values of a function. -/
def appliedKind (function : String) (kind : Option Kind) : Option Kind :=
  if function = distinctCount then some .integer else kind

/-- The column that shows a function of a field. -/
def aggregateField (s : Scope) (clause : String) (direction : Direction) (function field : String) :
    Naming ExtraField := do
  let field ← s.canonical field
  let function := lower function
  let some accepted := s.catalog.functions.find? function
    | throw (.unknownFunction function clause)
  let kind := s.kind? field
  unless accepted.accepts kind do throw (.functionMismatch function field)
  let column ← s.column field
  let name ← freshAlias (function ++ "_" ++ aliasStem field)
  return ⟨.aggregate function field, direction, ⟨applied function column, some name⟩,
    function ++ "(" ++ field ++ ")", appliedKind function kind⟩

/-- The column that counts rows. -/
def countField (direction : Direction) : Naming ExtraField := do
  return ⟨.count, direction, ⟨.countRows, some (← freshAlias "count")⟩, "N", some .integer⟩

/-- The column that shows a field. -/
def plainField (s : Scope) (direction : Direction) (field : String) : Naming ExtraField := do
  let field ← s.canonical field
  let column ← s.column field
  return ⟨.field field, direction, ⟨.column column, Option.none⟩, field, s.kind? field⟩

/-- The column that an item asks for. -/
def extraField (s : Scope) (clause : String) (item : ClauseItem) : Naming ExtraField :=
  match item.function with
  | some function => aggregateField s clause item.direction function item.field
  | Option.none =>
    if lower item.field = "n" then countField item.direction
    else plainField s item.direction item.field

/-- The extra columns that a clause asks for. -/
def ExtraList.parse (s : Scope) (clause : String) : Naming ExtraList := do
  let some items := extraItems? clause | throw (.malformed clause)
  let fields ← items.mapM (extraField s clause)
  let list : ExtraList := ⟨fields, clause⟩
  unless fields.all (fun f => f.isAggregate == list.isAggregate) do throw (.mixedKinds clause)
  return list

/-- The fields of an accepted list are aggregate as the list is. -/
theorem ExtraList.isAggregate_of_parse {s : Scope} {clause : String} {n m : Nat} {l : ExtraList}
    (h : (ExtraList.parse s clause).run n = (.ok l, m)) :
    ∀ f ∈ l.fields, f.isAggregate = l.isAggregate := by
  unfold ExtraList.parse at h
  split at h
  · rename_i items hi
    rw [Naming.run_bind] at h
    rcases hm : (items.mapM (extraField s clause)).run n with ⟨_ | fields, k⟩
    · rw [hm] at h
      cases h
    · rw [hm] at h
      simp only at h
      split at h
      · rename_i hall
        cases h
        simpa using hall
      · cases h
  · cases h

end GameLog
