import GameLog.Statement.Condition

/-!
# Statements

A statement selects from one or two tables the rows under a condition, in groups or one by one, in
an order. A store is given its text, with question marks, and the values in their order.
-/

namespace GameLog

open GameLog.Text

/-- What rows are ordered by: a column, or a selected expression by its name. -/
inductive OrderKey
  | column (c : Column)
  | named (name : String)
deriving DecidableEq, Repr

/-- One term of an order. -/
structure OrderTerm where
  key : OrderKey
  direction : Direction
deriving DecidableEq, Repr

/-- The text of an order key. -/
def OrderKey.text : OrderKey → String
  | column c => c.text
  | named name => name

/-- The text of an order term. -/
def OrderTerm.text (t : OrderTerm) : String := t.key.text ++ " " ++ t.direction.text

/-- A statement that selects rows. -/
structure Statement where
  selected : List Selected
  tables : List TableRef
  condition : Condition
  groupBy : List Column
  orderBy : List OrderTerm
deriving Repr

namespace Statement

/-- A clause of a statement: a keyword and its items, or nothing without items. -/
def clause (keyword : String) (items : List String) : String :=
  if items.isEmpty then "" else keyword ++ joinWith ", " items

/-- The condition of a statement with its keyword, or nothing if there is no text. -/
def whereClause (s : Statement) : String :=
  if s.condition.text = "" then "" else " WHERE " ++ s.condition.text

/-- The text of the order of a statement. -/
def orderClause (s : Statement) : String := clause " ORDER BY " (s.orderBy.map OrderTerm.text)

/-- The text of a statement. -/
def text (s : Statement) : String :=
  clause "SELECT " (s.selected.map Selected.text) ++ clause " FROM " (s.tables.map TableRef.text) ++
    s.whereClause ++ clause " GROUP BY " (s.groupBy.map Column.text) ++ s.orderClause

/-- The values for the question marks, in their order. -/
def params (s : Statement) : List Cell := s.condition.values

end Statement

end GameLog
