import GameLog.Text.Basic

/-!
# Names of tables and columns

A name without quotes is a word: a letter or underscore, then letters, digits, underscores and
dollar signs, where every character beyond ASCII counts as a letter. Some words of the language of
the store are no names, others are names only where they mean nothing else. Names are told apart
without regard to letter case.
Main statement: `isBareWord_append`, what stands behind a word may be any of its characters.
-/

namespace GameLog.Store

open GameLog.Text

/-! ## Characters -/

/-- The mark that a text may start with, which is a blank there. -/
def byteOrderMark : Char := '\ufeff'

/-- Whether a character may stand first in a name. -/
def startsName (c : Char) : Bool :=
  c.isAlpha || c == '_' || 128 ≤ c.toNat && c != byteOrderMark

/-- Whether a character may stand in a name. -/
def inName (c : Char) : Bool := startsName c || c.isDigit || c == '$' || c == byteOrderMark

/-! ## Names -/

/-- The words that are not taken for names. -/
def reservedWords : List String :=
  ["add", "all", "alter", "and", "as", "autoincrement", "between", "case", "check", "collate",
    "commit", "constraint", "create", "default", "deferrable", "delete", "distinct", "drop", "else",
    "escape", "except", "exists", "foreign", "from", "group", "having", "in", "index", "insert",
    "intersect", "into", "is", "isnull", "join", "limit", "not", "nothing", "notnull", "null", "on",
    "or", "order", "primary", "references", "returning", "select", "set", "table", "then", "to",
    "transaction", "union", "unique", "update", "using", "values", "when", "where"]

/-- The names that say how tables are joined, and are no values and no types. -/
def joinWords : List String := ["cross", "full", "inner", "left", "natural", "outer", "right"]

/-- The names that are no types. -/
def untypedWords : List String := "indexed" :: joinWords

/-- The names that stand for something else where a value is expected. -/
def valueWords : List String :=
  ["cast", "current_date", "current_time", "current_timestamp", "raise"]

/-- The words that stand for values. -/
def constantWords : List String := ["current_date", "current_time", "current_timestamp", "null"]

/-- Whether characters form a word that names are written with. -/
def isBareWord : List Char → Bool
  | [] => false
  | c :: cs => startsName c && cs.all inName

/-- Whether a text is a name without quotes. -/
def isBareName (s : String) : Bool := isBareWord s.toList && !reservedWords.contains (lower s)

/-- What the names start with that the store keeps for itself. -/
def ownStart : String := "sqlite_"

/-- Whether the store keeps a name for itself. -/
def isOwnName (s : String) : Bool := startsWith (lower s) ownStart

/-- What stands behind a word may be any of its characters. -/
theorem isBareWord_append {a b : List Char} (h : isBareWord a = true) :
    isBareWord (a ++ b) = b.all inName := by
  cases a with
  | nil => simp [isBareWord] at h
  | cons c cs => simp_all [isBareWord]

end GameLog.Store
