import GameLog.Catalog.Kind
import GameLog.Json.Basic

/-!
# The form of catalog documents

A JSON value that says what a catalog document looks like, in the words that JSON documents are
commonly described with. Main statement: `find?_required`, the parts without which a document is not
read are listed.
-/

namespace GameLog

/-- The form of a text. -/
def textForm : Json := .object [("type", .string "string")]

/-- The form of a list of parts. -/
def listForm (part : Json) : Json := .object [("items", part), ("type", .string "array")]

/-- The form of texts by names. -/
def dictionaryForm : Json :=
  .object [("additionalProperties", textForm), ("type", .string "object")]

/-- The form of parts by fixed names, some of which are required. -/
def recordForm (required : List String) (parts : List (String × Json)) : Json :=
  .object [("properties", .ofFields parts), ("required", .array (required.map .string)),
    ("type", .string "object")]

/-- The form of the name of a kind. -/
def kindForm : Json :=
  .object [("enum", .array ([Kind.integer, .date, .text, .boolean].map fun k => .string k.name)),
    ("type", .string "string")]

/-- The form of an entry for a field. -/
def fieldEntryForm : Json :=
  recordForm ["name", "kind"]
    [("name", textForm), ("kind", kindForm),
      ("summarisable", .object [("default", .bool true), ("type", .string "boolean")]),
      ("column", .object [("type", .array [.string "string", .string "null"])])]

/-- The parts of a document that have to be there. -/
def requiredParts : List String :=
  ["default_game_type", "game_type_prefixes", "aggregate_function_types", "game_fields",
    "milestone_fields"]

/-- The form of a catalog document. -/
def documentForm : Json :=
  recordForm requiredParts
    [("default_game_type", textForm), ("game_type_prefixes", dictionaryForm),
      ("aggregate_function_types", dictionaryForm), ("column_aliases", dictionaryForm),
      ("game_fields", listForm fieldEntryForm), ("milestone_fields", listForm fieldEntryForm),
      ("milestone_types", listForm textForm)]

/-- The parts without which a document is not read are listed. -/
theorem find?_required :
    documentForm.find? "required" = some (.array (requiredParts.map .string)) := rfl

end GameLog
