import GameLog.Store.Phrase
import GameLog.Store.Schema

/-!
# Reading declarations

A store is told what to keep by text. The text holds declarations with a semicolon behind each. A
table is declared by its columns, each with a name, the words of a type and further phrases, and
behind them by rules for the table; an index by the names of its columns. Where rows are put into a
table, its columns are given as a list of names.
-/

namespace GameLog

open GameLog.Text GameLog.Store

/-! ## Columns -/

/-- The form in which a column of a type keeps its values: as numbers if it names integers. -/
def Storage.ofType (type : List Piece) : Storage :=
  if type.any fun p => occurs "int".toList p.typeText.toList then .integer else .text

/-- Whether a column of a type with these phrases behind it numbers the rows. -/
def numbersRows (type phrases : List Piece) : Bool :=
  type.map Piece.typeText == ["integer"] && phrases.any (·.isKey ["primary"])

/-- The column that pieces declare. -/
def ColumnSpec.ofPieces? : List Piece → Option ColumnSpec
  | .one l :: rest => do
    let name ← l.name?
    let type := rest.takeWhile Piece.isTyping
    let more := rest.dropWhile Piece.isTyping
    let phrases ← if type.isEmpty then some more else behindSize more
    if madeOf columnPhrases phrases then some ⟨name, .ofType type, numbersRows type phrases⟩
    else none
  | _ => none

/-! ## Declarations -/

/-- Whether the pieces of an item are about the table and not a column. -/
def isTableRule (item : List Piece) : Bool :=
  item.head?.any (·.isKey ["check", "constraint", "foreign", "primary", "unique"])

/-- Whether pieces are rules for a table. -/
def areTableRules (item : List Piece) : Bool := !item.isEmpty && madeOf tablePhrases item

/-- The lists of columns in rules for a table. -/
def columnLists : List Piece → List (List Lexeme)
  | .one l :: .group inside :: rest =>
    if l.isKey ["key", "unique"] then inside :: columnLists rest else columnLists rest
  | _ :: rest => columnLists rest
  | [] => []

/-- Whether the items of a list start with the names of columns. -/
def namesColumns (columns : List ColumnSpec) (inside : List Lexeme) : Bool :=
  (items inside).any fun list => list.all fun item =>
    match item with
    | .one l :: _ => l.name?.any fun name => columns.any (sameLetters ·.name name)
    | _ => false

/-- The columns that the items of a table declare: at least one, behind which rules for the table
may follow. There is one primary key at most. -/
def columnsOf? (items : List (List Piece)) : Option (List ColumnSpec) := do
  let columns ← (items.takeWhile (!isTableRule ·)).mapM ColumnSpec.ofPieces?
  let rules := items.dropWhile (!isTableRule ·)
  if columns.isEmpty || !rules.all areTableRules ||
    !(rules.flatMap columnLists).all (namesColumns columns) ||
    1 < items.flatten.countP (·.isKey ["primary"]) then none
  else some columns

/-- The word in front of a name that is declared if it is not there yet. -/
def declaring (kind : String) : Phrase :=
  [.key ["create"], .key [kind], .key ["if"], .key ["not"], .key ["exists"]]

/-- The name of a column that pieces are where a value is expected. -/
def columnNameOf? : List Piece → Option String
  | [.one l] => l.columnName?
  | _ => none

/-- The declaration that parts make up. -/
def Declaration.ofLexemes? (parts : List Lexeme) : Option Declaration := do
  let ps ← pieces parts
  match behind (declaring "table") ps, behind (declaring "index") ps with
  | some [.one name, .group inside], _ =>
    some (.table (← name.name?) (← columnsOf? (← items inside)))
  | _, some [.one name, .one on, .one base, .group inside] =>
    if on.isKey ["on"] then
      some (.index (← name.name?) (← base.name?) (← (← items inside).mapM columnNameOf?))
    else none
  | _, _ => none

/-- The declarations in front of the first that cannot be read, and whether all were read. -/
def readDeclarations : List (List Lexeme) → List Declaration × Bool
  | [] => ([], true)
  | parts :: rest =>
    if parts.isEmpty then readDeclarations rest
    else match Declaration.ofLexemes? parts with
      | none => ([], false)
      | some d => let (ds, whole) := readDeclarations rest; (d :: ds, whole)

/-- The characters of a text that are read: those in front of the first that ends it. -/
def readable (text : String) : List Char := text.toList.takeWhile (· != '\x00')

/-- The declarations of a text up to the first that cannot be read, and whether all were read. -/
def declarationsOf (text : String) : List Declaration × Bool :=
  readDeclarations ((lexemes (readable text)).splitOnP (· == .mark ';'))

/-! ## Lists of names -/

/-- The name that pieces are. -/
def nameOf? : List Piece → Option String
  | [.one l] => l.name?
  | _ => none

/-- The names in a list, as it stands in brackets. -/
def namesOf? (text : String) : Option (List String) :=
  match pieces (lexemes (readable ("(" ++ text ++ ")"))) with
  | some [.group inside] => (items inside).bind (·.mapM nameOf?)
  | _ => none

/-- The name that a text is. -/
def nameOfText? (text : String) : Option String :=
  match namesOf? text with
  | some [name] => some name
  | _ => none

end GameLog
