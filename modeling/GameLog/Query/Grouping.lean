import GameLog.Query.Extra

/-!
# Groups

A report groups rows by one or two fields. Milestone types may stand for fields; functions of fields
may not. Main statement: `length_fields`, a list has one field or two.
-/

namespace GameLog

open GameLog.Text

/-- A field to group by: in which direction the report orders it, and whether shares are shown. -/
structure GroupField where
  direction : Direction
  field : String
  percent : Bool
  kind : Option Kind
deriving DecidableEq, Repr

/-- One or two fields to group by, and the clause that asks for them. -/
structure GroupList where
  first : GroupField
  second : Option GroupField
  source : String
deriving DecidableEq, Repr

namespace GroupList

/-- The fields in order. -/
def fields (l : GroupList) : List GroupField := l.first :: l.second.toList

/-- A list has one field or two. -/
theorem length_fields (l : GroupList) : l.fields.length = 1 ∨ l.fields.length = 2 := by
  rcases l with ⟨first, _ | second, source⟩ <;> simp [fields]

/-- The list with a function applied to its fields. -/
def map (f : GroupField → GroupField) (l : GroupList) : GroupList :=
  ⟨f l.first, l.second.map f, l.source⟩

@[simp] theorem fields_map (f : GroupField → GroupField) (l : GroupList) :
    (l.map f).fields = l.fields.map f := by
  rcases l with ⟨first, _ | second, source⟩ <;> simp [fields, map]

end GroupList

/-- The field that an item of a group clause asks for, other than the fields before it. -/
def groupField (s : Scope) (clause : String) (before : List String) (item : ClauseItem) :
    Naming GroupField := do
  if let some function := item.function then
    let refused ← aggregateField s clause item.direction function item.field
    throw (.notSummarisable refused.label)
  let field ← s.canonical item.field
  if field ∈ before then throw (.repeatedGroup field clause)
  unless s.summarisable field do throw (.notSummarisable field)
  return ⟨item.direction, field, item.percent, s.kind? field⟩

/-- The groups that a clause asks for. -/
def GroupList.parse (s : Scope) (clause : String) : Naming GroupList :=
  match groupItems? clause with
  | some [item] => do return ⟨← groupField s clause [] item, none, clause⟩
  | some [item, item'] => do
    let first ← groupField s clause [] item
    let second ← groupField s clause [first.field] item'
    return ⟨first, some second, clause⟩
  | _ => throw (.malformed clause)

end GameLog
