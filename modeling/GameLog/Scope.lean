import GameLog.Catalog.Basic
import GameLog.Query.Error
import GameLog.Statement.Column

/-!
# Names in scope

A scope says which fields a query may name: those of its own context, and behind them those of the
context it falls back to. A name may be led by the short name of a table and a colon, and is then
looked for in that table only.

Main statements:
* `canonical_resolves`: a canonical name is one that something in scope owns;
* `column_table`: columns belong to the table of a context in scope.
-/

namespace GameLog

open GameLog.Text

/-- A catalog seen from one context under one game type. -/
structure Scope where
  catalog : Catalog
  context : Context
  game : String
deriving DecidableEq

/-- What owns a name: a field of a context, or a milestone type to group by. -/
inductive Owner
  | field (context : Context) (spec : FieldSpec)
  | pivot (context : Context)
deriving DecidableEq, Repr

/-- The context of an owner. -/
def Owner.context : Owner → Context
  | field context _ => context
  | pivot context => context

/-- The contexts whose fields may be named, nearest first. -/
def Context.inScope (context : Context) : List Context := context :: context.fallback?.toList

namespace Scope

/-! ## Looking names up -/

/-- Whether a character may stand in the short name of a table in front of a colon. -/
def isTableChar (c : Char) : Bool := c.isAlphanum || c == '_'

/-- The short name of a table in front of a field name, and the name behind it. -/
def splitName (name : String) : Option String × String :=
  match splitFirst ':' name.toList with
  | some (table, field) =>
    if !table.isEmpty && !field.isEmpty && table.all isTableChar then
      (some (String.ofList table), String.ofList field)
    else (none, name)
  | none => (none, name)

/-- What owns a name in one context. -/
def ownerIn? (c : Catalog) (context : Context) (name : String) : Option Owner :=
  match c.fieldIn? context name with
  | some spec => some (.field context spec)
  | none => if c.isPivot context name then some (.pivot context) else none

/-- What owns a name. A short name of a table in front of it decides the context. -/
def resolve? (s : Scope) (name : String) : Option Owner :=
  match splitName name with
  | (some table, field) =>
    (s.context.inScope.find? fun context => sameLetters table context.short).bind fun context =>
      ownerIn? s.catalog context field
  | (none, field) => s.context.inScope.findSome? fun context => ownerIn? s.catalog context field

theorem context_of_ownerIn? {c : Catalog} {context : Context} {name : String} {owner : Owner}
    (h : ownerIn? c context name = some owner) : owner.context = context := by
  unfold ownerIn? at h
  split at h
  · simp only [Option.some.injEq] at h; subst h; rfl
  · split at h
    · simp only [Option.some.injEq] at h; subst h; rfl
    · simp at h

theorem context_of_resolve? {s : Scope} {name : String} {owner : Owner}
    (h : s.resolve? name = some owner) : owner.context ∈ s.context.inScope := by
  unfold resolve? at h
  split at h
  · obtain ⟨context, hfound, howner⟩ := Option.bind_eq_some_iff.1 h
    rw [context_of_ownerIn? howner]
    exact List.mem_of_find?_eq_some hfound
  · obtain ⟨context, hmem, howner⟩ := List.exists_of_findSome?_eq_some h
    rw [context_of_ownerIn? howner]
    exact hmem

/-- A name in lower case with aliases resolved behind the short name of a table, which stays. -/
def spell (s : Scope) (raw : String) : String :=
  match splitName (trim raw) with
  | (some table, field) => lower table ++ ":" ++ s.catalog.canonicalName field
  | (none, field) => s.catalog.canonicalName field

/-- The canonical form of a name that something in scope owns. -/
def canonical (s : Scope) (raw : String) : Except QueryError String :=
  if (s.resolve? (s.spell raw)).isSome then .ok (s.spell raw)
  else .error (.unknownField (s.spell raw))

/-- A canonical name is one that something in scope owns. -/
theorem canonical_resolves {s : Scope} {raw name : String} (h : s.canonical raw = .ok name) :
    (s.resolve? name).isSome = true := by
  unfold canonical at h
  split at h <;> simp_all

/-! ## What a name stands for -/

/-- The kind of the values of a name; milestone types are text. -/
def kind? (s : Scope) (name : String) : Option Kind :=
  (s.resolve? name).map fun
    | .field _ spec => spec.kind
    | .pivot _ => .text

/-- The column of a field in a context. -/
def columnOf (context : Context) (spec : FieldSpec) : Column := ⟨some context.short, spec.column⟩

/-- The column of a name that a field owns. -/
def column (s : Scope) (name : String) : Except QueryError Column :=
  match s.resolve? name with
  | some (.field context spec) => .ok (columnOf context spec)
  | _ => .error (.unknownField name)

/-- Columns belong to the table of a context in scope. -/
theorem column_table {s : Scope} {name : String} {c : Column} (h : s.column name = .ok c) :
    ∃ context ∈ s.context.inScope, c.table = some context.short := by
  unfold column at h
  split at h
  · rename_i context spec hres
    simp only [Except.ok.injEq] at h
    exact ⟨context, context_of_resolve? hres, by rw [← h]; rfl⟩
  · simp at h

/-- Whether a name is a milestone type to group by. -/
def isPivot (s : Scope) (name : String) : Bool :=
  match s.resolve? name with
  | some (.pivot _) => true
  | _ => false

/-- Whether reports may be grouped by a name. -/
def summarisable (s : Scope) (name : String) : Bool :=
  match s.resolve? name with
  | some (.field _ spec) => spec.summarisable
  | some (.pivot _) => true
  | none => false

/-- Whether reports may be grouped by a name without another table. -/
def directlySummarisable (s : Scope) (name : String) : Bool :=
  (s.resolve? name).any (fun owner => owner.context == s.context) && s.summarisable name

/-! ## Tables -/

/-- The table of a context under the game type of the scope. -/
def table (s : Scope) (context : Context) : TableRef :=
  ⟨s.catalog.tableName context s.game, context.short⟩

end Scope

end GameLog
