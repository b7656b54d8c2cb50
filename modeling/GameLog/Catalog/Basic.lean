import GameLog.Catalog.Kind
import GameLog.Dictionary

/-!
# The catalog of fields

The catalog says which fields games and milestones have, which columns hold them, which other names
they go by, which functions may be applied to them, and which types of games there are. Milestone
types stand for groups of their own: a report may be grouped by one as if it were a field.
Main statement: `mem_of_gameType?`, a game type that a word names is one of the catalog.
-/

namespace GameLog

open GameLog.Text

/-- A field: its name, the kind of its values, whether reports may be grouped by it, its column. -/
structure FieldSpec where
  name : String
  kind : Kind
  summarisable : Bool
  column : String
deriving DecidableEq, Repr

/-- The catalog. -/
structure Catalog where
  defaultGame : String
  tablePrefixes : Dictionary String
  functions : Dictionary Accepted
  aliases : Dictionary String
  gameFields : List FieldSpec
  milestoneFields : List FieldSpec
  milestoneTypes : Dictionary Unit
deriving DecidableEq

/-! ## Fields that the program itself refers to -/

/-- The field that a milestone shares with its game. -/
def joinField : String := "game_key"

/-- The field that tells rows apart and breaks ties of their order. -/
def idField : String := "id"

/-- The field with the name of the actor. -/
def actorField : String := "name"

/-- The field with the object of a milestone. -/
def nounField : String := "noun"

/-- The field with the type of a milestone. -/
def verbField : String := "verb"

namespace Catalog

/-! ## Fields -/

/-- The fields of a context in order. -/
def fields (c : Catalog) : Context → List FieldSpec
  | .game => c.gameFields
  | .milestone => c.milestoneFields

/-- The field of a context with exactly this name. -/
def fieldIn? (c : Catalog) (context : Context) (name : String) : Option FieldSpec :=
  (c.fields context).find? (·.name == name)

/-- Whether a name is a milestone type that reports of a context may be grouped by. -/
def isPivot (c : Catalog) : Context → String → Bool
  | .game, _ => false
  | .milestone, name => c.milestoneTypes.contains name

/-- The name in lower case with aliases resolved. Whether there is such a field is not asked. -/
def canonicalName (c : Catalog) (name : String) : String :=
  let name := lower (trim name)
  (c.aliases.find? name).getD name

/-- The field of a name, of games first and then of milestones. -/
def field? (c : Catalog) (name : String) : Option FieldSpec :=
  (c.fieldIn? .game (c.canonicalName name)).or (c.fieldIn? .milestone (c.canonicalName name))

/-- Whether reports of some context may be grouped by a name. -/
def summarisable (c : Catalog) (name : String) : Bool :=
  (c.field? name).any (·.summarisable) || c.isPivot .milestone (c.canonicalName name)

/-! ## Game types -/

/-- The game type that a word names, in any letter case. -/
def gameType? (c : Catalog) (word : String) : Option String :=
  c.tablePrefixes.names.find? fun game => sameLetters game word

/-- The table of a context under a game type. -/
def tableName (c : Catalog) (context : Context) (game : String) : String :=
  (c.tablePrefixes.find? game).getD "" ++ context.baseTable

/-- A game type that a word names is one of the catalog. -/
theorem mem_of_gameType? {c : Catalog} {word game : String} (h : c.gameType? word = some game) :
    game ∈ c.tablePrefixes.names := List.mem_of_find?_eq_some h

end Catalog

end GameLog
