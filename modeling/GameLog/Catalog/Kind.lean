import GameLog.Text.Basic

/-!
# Kinds of fields and contexts

Every field of the catalog holds values of one kind. Fields belong to one of two contexts: a game
that was finished, or a milestone reached in a game. Main statement: `read?_name`, a kind is read
from its own name.
-/

namespace GameLog

open GameLog.Text

/-! ## Kinds -/

/-- The kind of the values of a field. -/
inductive Kind
  | integer
  | date
  | text
  | boolean
deriving DecidableEq, Repr

namespace Kind

/-- The name of a kind in catalog documents and messages. -/
def name : Kind → String
  | integer => "integer"
  | date => "date"
  | text => "text"
  | boolean => "boolean"

/-- The kind of exactly this name. -/
def ofName? (s : String) : Option Kind :=
  [integer, date, text, boolean].find? fun kind => kind.name == s

/-- The kind that a word for it names, in any letter case; one letter is enough. -/
def read? (s : String) : Option Kind :=
  let word := lower (trim s)
  if word = "integer" || word = "i" then some integer
  else if word = "date" || word = "d" then some date
  else if word = "text" || word = "s" then some text
  else if word = "boolean" || word = "b" then some boolean
  else none

/-- A kind is read from its own name. -/
theorem read?_name (kind : Kind) : read? kind.name = some kind := by
  cases kind <;> decide +kernel

end Kind

/-- The kinds of fields that an aggregate function takes. -/
inductive Accepted
  | any
  | only (kind : Kind)
deriving DecidableEq, Repr

namespace Accepted

/-- Whether a function takes a field of this kind. -/
def accepts : Accepted → Option Kind → Bool
  | any, _ => true
  | only required, kind => kind == some required

/-- The word for the accepted kinds in catalog documents. -/
def name : Accepted → String
  | any => "*"
  | only kind => kind.name

/-- The accepted kinds that a word names. -/
def read? (s : String) : Option Accepted :=
  if trim s = "*" then some any else (Kind.read? s).map only

/-- Accepted kinds are read from their own word. -/
theorem read?_name (accepted : Accepted) : read? accepted.name = some accepted := by
  cases accepted with
  | any => decide +kernel
  | only kind => cases kind <;> decide +kernel

end Accepted

/-! ## Contexts -/

/-- What a row tells of: a finished game, or a milestone reached in a game. -/
inductive Context
  | game
  | milestone
deriving DecidableEq, Repr

namespace Context

/-- The context whose fields are used where a field is not found in this one. -/
def fallback? : Context → Option Context
  | game => none
  | milestone => some game

/-- The name of a context. -/
def name : Context → String
  | game => "game"
  | milestone => "milestone"

/-- The table of a context without what a game type puts in front of it. -/
def baseTable : Context → String
  | game => "logrecord"
  | milestone => "milestone"

/-- The short name that statements give to the table of a context. -/
def short : Context → String
  | game => "lg"
  | milestone => "mst"

/-- The word for one row of a context. -/
def entity : Context → String
  | game => "game"
  | milestone => "milestone"

/-- The field that rows are ordered by if nothing else is said. -/
def defaultSort : Context → String
  | game => "end"
  | milestone => "time"

end Context

end GameLog
