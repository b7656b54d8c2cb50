import GameLog.Catalog.Basic
import GameLog.Statement.Column

/-!
# The tables of a catalog

For every game type the catalog declares two tables, one of finished games and one of milestones.
Each is indexed by the field that milestones share with games, and by the field that rows are
ordered by if nothing else is said.
Main statement: `mem_declarations`, every table of the catalog is declared with its columns.
-/

namespace GameLog

open GameLog.Text

/-! ## Declarations -/

/-- The form in which a column keeps its values. -/
inductive Storage
  | integer
  | text
deriving DecidableEq, Repr

/-- The word for a form in declarations. -/
def Storage.word : Storage → String
  | integer => "INTEGER"
  | text => "TEXT"

/-- The form in which values of a kind are kept: truth values as numbers, dates as texts. -/
def Kind.storage : Kind → Storage
  | integer => .integer
  | date => .text
  | text => .text
  | boolean => .integer

/-- A column of a table. The one that numbers the rows is primary. -/
structure ColumnSpec where
  name : String
  storage : Storage
  primary : Bool
deriving DecidableEq, Repr

/-- The text of a column in a declaration. -/
def ColumnSpec.text (c : ColumnSpec) : String :=
  c.name ++ " " ++ c.storage.word ++ if c.primary then " PRIMARY KEY" else ""

/-- What a store is told to keep: a table, or an index of a table by some of its columns. -/
inductive Declaration
  | table (name : String) (columns : List ColumnSpec)
  | index (name base : String) (columns : List String)
deriving DecidableEq, Repr

/-- The text of a declaration. What is there already is left as it is. -/
def Declaration.text : Declaration → String
  | table name columns =>
    "CREATE TABLE IF NOT EXISTS " ++ name ++ " (\n    " ++
      joinWith ",\n    " (columns.map ColumnSpec.text) ++ "\n);"
  | index name base columns =>
    "CREATE INDEX IF NOT EXISTS " ++ name ++ " ON " ++ base ++ " (" ++ joinWith ", " columns ++ ");"

/-! ## The catalog as declarations -/

/-- The column of a field. The field that tells rows apart numbers them. -/
def FieldSpec.columnSpec (f : FieldSpec) : ColumnSpec :=
  if f.name = idField then ⟨f.column, .integer, true⟩ else ⟨f.column, f.kind.storage, false⟩

/-- The name of an index of a table. -/
def indexName (table column : String) : String := "idx_" ++ table ++ "_" ++ column

namespace Catalog

/-- What one context declares under a game type. -/
def declarationsOf (c : Catalog) (game : String) (context : Context) : List Declaration :=
  let table := c.tableName context game
  [.table table ((c.fields context).map FieldSpec.columnSpec),
    .index (indexName table joinField) table [joinField]] ++
  ((c.fieldIn? context context.defaultSort).map fun sort =>
    .index (indexName table sort.column) table [sort.column, idField]).toList

/-- All tables and indexes of a catalog, by game type. -/
def declarations (c : Catalog) : List Declaration :=
  c.tablePrefixes.names.flatMap fun game =>
    [Context.game, Context.milestone].flatMap (c.declarationsOf game)

/-- The text of all declarations. -/
def schemaText (c : Catalog) : String := joinWith "\n" (c.declarations.map Declaration.text)

/-- Every table of the catalog is declared with its columns. -/
theorem mem_declarations {c : Catalog} {game : String} (h : game ∈ c.tablePrefixes.names)
    (context : Context) :
    .table (c.tableName context game) ((c.fields context).map FieldSpec.columnSpec) ∈
      c.declarations := by
  refine List.mem_flatMap.2 ⟨game, h, List.mem_flatMap.2 ⟨context, ?_, by simp [declarationsOf]⟩⟩
  cases context <;> simp

end Catalog

end GameLog
