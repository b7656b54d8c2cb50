import GameLog.Text.Basic

/-!
# Columns, tables and what is selected

The parts that statements are made of. Statements call each table by a short name, and their columns
by that name, a point and the name of the column.
Main statement: `text_ofText`, the column that a text names has that text.
-/

namespace GameLog

open GameLog.Text

/-! ## Columns -/

/-- A column: its name behind the short name of its table, if one is given. -/
structure Column where
  table : Option String
  name : String
deriving DecidableEq, Repr

namespace Column

/-- The text of a column in statements. -/
def text (c : Column) : String :=
  match c.table with
  | some table => table ++ "." ++ c.name
  | none => c.name

/-- The column that a text names: what stands in front of the first point is the table. -/
def ofText (s : String) : Column :=
  match splitFirst '.' s.toList with
  | some (table, name) => ⟨some (String.ofList table), String.ofList name⟩
  | none => ⟨none, s⟩

/-- The column that a text names has that text. -/
theorem text_ofText (s : String) : (ofText s).text = s := by
  unfold ofText
  split
  · rename_i table name h
    have := (splitFirst_eq h).1
    apply String.ext
    simp [text, this]
  · rfl

/-- Whether the text of a column starts with the short name of a table and a point. -/
def isOf (table : String) (c : Column) : Bool := startsWith c.text (table ++ ".")

end Column

/-! ## Tables -/

/-- A table under the short name that a statement gives it. -/
structure TableRef where
  table : String
  short : String
deriving DecidableEq, Repr

/-- The text of a table in statements. -/
def TableRef.text (t : TableRef) : String := t.table ++ " " ++ t.short

/-! ## Directions -/

/-- Whether larger values come first or last. -/
inductive Direction
  | descending
  | ascending
deriving DecidableEq, Repr

namespace Direction

/-- The word for a direction in statements. -/
def text : Direction → String
  | descending => "DESC"
  | ascending => "ASC"

/-- The other direction. -/
def flip : Direction → Direction
  | descending => ascending
  | ascending => descending

@[simp] theorem flip_flip (d : Direction) : d.flip.flip = d := by cases d <;> rfl

end Direction

/-! ## What is selected -/

/-- A value computed from a row or a group of rows. -/
inductive Expression
  | column (c : Column)
  | countRows
  | countDistinct (c : Column)
  | apply (function : String) (c : Column)
deriving DecidableEq, Repr

/-- The text of an expression in statements. -/
def Expression.text : Expression → String
  | column c => c.text
  | countRows => "COUNT(*)"
  | countDistinct c => "COUNT(DISTINCT " ++ c.text ++ ")"
  | apply function c => function ++ "(" ++ c.text ++ ")"

@[simp] theorem Expression.text_column (c : Column) : (column c).text = c.text := rfl

@[simp] theorem Expression.text_countDistinct (c : Column) :
    (countDistinct c).text = "COUNT(DISTINCT " ++ c.text ++ ")" := rfl

@[simp] theorem Expression.text_apply (function : String) (c : Column) :
    (apply function c).text = function ++ "(" ++ c.text ++ ")" := rfl

/-- The column that an expression reads. -/
def Expression.column? : Expression → Option Column
  | column c => some c
  | countRows => none
  | countDistinct c => some c
  | apply _ c => some c

/-- A selected expression, under a name of its own if it has one. -/
structure Selected where
  expression : Expression
  asName : Option String
deriving DecidableEq, Repr

/-- The text of a selected expression. -/
def Selected.text (s : Selected) : String :=
  match s.asName with
  | some name => s.expression.text ++ " AS " ++ name
  | none => s.expression.text

end GameLog
