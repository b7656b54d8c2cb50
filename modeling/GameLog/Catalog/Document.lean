import GameLog.Catalog.Basic
import GameLog.Json.Value

/-!
# Catalog documents

A catalog is kept as a JSON document. Reading one checks its shape first and then what it says: the
default game type needs a table, the kinds that functions take need to exist, no field may be
declared twice, and the fields that every table needs have to be there.

Main statements:
* `ofDocument_eq_ok_iff`: a document makes a catalog exactly if nothing is wrong with it;
* `fieldsFault_eq_none_iff`: what it means that nothing is wrong with a list of fields.
-/

namespace GameLog

open GameLog.Text GameLog.Json

/-! ## The document -/

/-- A field as a document declares it. Without a column it is kept under its own name. -/
structure FieldEntry where
  name : String
  kind : Kind
  summarisable : Bool
  column : Option String
deriving DecidableEq, Repr

/-- A catalog document. -/
structure Document where
  defaultGame : String
  tablePrefixes : Dictionary String
  functions : Dictionary String
  aliases : Dictionary String
  gameFields : List FieldEntry
  milestoneFields : List FieldEntry
  milestoneTypes : List String
deriving DecidableEq

/-! ## What may be wrong -/

/-- Why a document is not a catalog. -/
inductive CatalogError
  | unreadable
  | noTable (game : String)
  | unknownKind (function kind : String)
  | repeatedField (context : Context) (name : String)
  | missingFields (context : Context)
deriving DecidableEq, Repr

/-- The name of the list of fields of a context in a document. -/
def fieldsLabel (context : Context) : String := context.name ++ "_fields"

/-- The text of an error. -/
def CatalogError.message : CatalogError → String
  | .unreadable => "failed to parse catalog json"
  | .noTable game => "default game type `" ++ game ++ "` has no table prefix"
  | .unknownKind function kind =>
    "aggregate function `" ++ function ++ "` has unknown field kind `" ++ kind ++ "`"
  | .repeatedField context name => fieldsLabel context ++ " repeats field `" ++ name ++ "`"
  | .missingFields context =>
    fieldsLabel context ++ " must declare `" ++ idField ++ "` and `" ++ joinField ++ "`"

/-! ## The shape of a document -/

/-- The string that a part of a document is. -/
def stringPart? : Written → Option String
  | .string s => pieceText? s
  | _ => none

/-- The truth value that a part of a document is. -/
def boolPart? : Written → Option Bool
  | .bool b => some b
  | _ => none

/-- The column that a part of a document names, if it is not null. -/
def columnPart? : Written → Option (Option String)
  | .null => some none
  | part => (stringPart? part).map some

/-- The kind that a part of a document names, alone or as the name of null in an object. -/
def kindPart? : Written → Option Kind
  | .object [(name, .null)] => (pieceText? name).bind Kind.ofName?
  | part => (stringPart? part).bind Kind.ofName?

/-- The items of a part of a document that is an array. -/
def listPart? {α : Type} (item? : Written → Option α) : Written → Option (List α)
  | .array items => items.mapM item?
  | _ => none

/-- The dictionary of strings that a part of a document is. -/
def dictionaryPart? : Written → Option (Dictionary String)
  | .object fields =>
    (fields.mapM fun (name, value) => do return (← pieceText? name, ← stringPart? value)).map
      Dictionary.ofList
  | _ => none

/-- The parts of a record of known names, each at most once, by name or in order. Of an object the
fields of other names are left out. -/
def recordParts? (names : List String) : Written → Option (List (Option Written))
  | .object fields => do
    let fields ← fields.mapM fun (name, value) => (pieceText? name).map fun name => (name, value)
    names.mapM fun name =>
      match fields.filter (·.1 == name) with
      | [] => some none
      | [field] => some (some field.2)
      | _ => none
  | .array items =>
    if items.length ≤ names.length then
      some (items.map some ++ List.replicate (names.length - items.length) none)
    else none
  | _ => none

/-- A part that may be left out, with its value if it is. -/
def optional? {α : Type} (read? : Written → Option α) (absent : α) : Option Written → Option α
  | none => some absent
  | some part => read? part

/-- The declaration of a field that a part of a document is. -/
def fieldPart? (part : Written) : Option FieldEntry := do
  match ← recordParts? ["name", "kind", "summarisable", "column"] part with
  | [some name, some kind, summarisable, column] =>
    return ⟨← stringPart? name, ← kindPart? kind, ← optional? boolPart? true summarisable,
      ← optional? columnPart? none column⟩
  | _ => none

/-- The document that a JSON text is. -/
def documentPart? (part : Written) : Option Document := do
  match ← recordParts? ["default_game_type", "game_type_prefixes", "aggregate_function_types",
      "column_aliases", "game_fields", "milestone_fields", "milestone_types"] part with
  | [some game, some tables, some functions, aliases, some gameFields, some milestoneFields,
      types] =>
    return ⟨← stringPart? game, ← dictionaryPart? tables, ← dictionaryPart? functions,
      ← optional? dictionaryPart? .empty aliases, ← listPart? fieldPart? gameFields,
      ← listPart? fieldPart? milestoneFields, ← optional? (listPart? stringPart?) [] types⟩
  | _ => none

/-- The document of a JSON text. -/
def Document.read? (s : String) : Option Document := (Written.read? s).bind documentPart?

/-! ## What a document says -/

/-- The first field that an earlier one has the name of, in any letter case. -/
def firstRepeated? (seen : List String) : List FieldEntry → Option FieldEntry
  | [] => none
  | entry :: rest =>
    if lower entry.name ∈ seen then some entry else firstRepeated? (lower entry.name :: seen) rest

/-- What is wrong with a list of fields. -/
def fieldsFault (context : Context) (entries : List FieldEntry) : Option CatalogError :=
  match firstRepeated? [] entries with
  | some entry => some (.repeatedField context entry.name)
  | none =>
    if [idField, joinField].all fun name => entries.any fun entry => lower entry.name == name then
      none
    else some (.missingFields context)

/-- The first function whose kind of fields does not exist. -/
def functionsFault (d : Document) : Option CatalogError :=
  (d.functions.entries.find? fun entry => (Accepted.read? entry.2).isNone).map fun entry =>
    .unknownKind entry.1 entry.2

/-- What is wrong with a document, the first thing if there are several. -/
def Document.fault (d : Document) : Option CatalogError :=
  if !d.tablePrefixes.contains d.defaultGame then some (.noTable d.defaultGame)
  else (functionsFault d).or
    ((fieldsFault .game d.gameFields).or (fieldsFault .milestone d.milestoneFields))

/-- No field has the name of an earlier one exactly if all names differ and none was seen. -/
theorem firstRepeated?_eq_none_iff {seen : List String} {entries : List FieldEntry} :
    firstRepeated? seen entries = none ↔
      (entries.map fun entry => lower entry.name).Nodup ∧
        ∀ entry ∈ entries, lower entry.name ∉ seen := by
  induction entries generalizing seen with
  | nil => simp [firstRepeated?]
  | cons entry rest ih =>
    by_cases h : lower entry.name ∈ seen
    · simp [firstRepeated?, h]
    · simp only [firstRepeated?, h, if_false, ih, List.map_cons, List.nodup_cons, List.mem_cons,
        List.mem_map, not_or, forall_eq_or_imp, not_false_eq_true, true_and, not_exists, not_and]
      constructor
      · rintro ⟨hd, hs⟩
        exact ⟨⟨fun e he => (hs e he).1, hd⟩, fun e he => (hs e he).2⟩
      · rintro ⟨⟨hn, hd⟩, hs⟩
        exact ⟨hd, fun e he => ⟨hn e he, hs e he⟩⟩

/-- Nothing is wrong with a list of fields exactly if all names differ in lower case and the fields
that every table needs are there. -/
theorem fieldsFault_eq_none_iff {context : Context} {entries : List FieldEntry} :
    fieldsFault context entries = none ↔
      (entries.map fun entry => lower entry.name).Nodup ∧
        (∃ entry ∈ entries, lower entry.name = idField) ∧
          ∃ entry ∈ entries, lower entry.name = joinField := by
  unfold fieldsFault
  split
  · rename_i entry h
    have hd : ¬ (entries.map fun entry => lower entry.name).Nodup := fun hd =>
      absurd (h.symm.trans (firstRepeated?_eq_none_iff.2 ⟨hd, fun _ _ => List.not_mem_nil⟩))
        (Option.some_ne_none _)
    simp [hd]
  · rename_i h
    have hd := (firstRepeated?_eq_none_iff.1 h).1
    simp only [List.all_cons, List.all_nil, Bool.and_true, ite_eq_left_iff, reduceCtorEq, imp_false,
      Bool.and_eq_true, List.any_eq_true, beq_iff_eq, hd, true_and, Decidable.not_not]

/-! ## The catalog of a document -/

/-- The field that an entry declares. -/
def FieldEntry.spec (entry : FieldEntry) : FieldSpec :=
  ⟨lower entry.name, entry.kind, entry.summarisable, entry.column.getD (lower entry.name)⟩

/-- The functions of a document under their names in lower case. -/
def Document.acceptedFunctions (d : Document) : Dictionary Accepted :=
  .ofList (d.functions.entries.filterMap fun entry =>
    (Accepted.read? entry.2).map fun accepted => (lower entry.1, accepted))

/-- The catalog of a document with nothing wrong. -/
def Catalog.assemble (d : Document) : Catalog where
  defaultGame := d.defaultGame
  tablePrefixes := d.tablePrefixes
  functions := d.acceptedFunctions
  aliases := .ofList (d.aliases.entries.map fun entry => (lower entry.1, lower entry.2))
  gameFields := d.gameFields.map FieldEntry.spec
  milestoneFields := d.milestoneFields.map FieldEntry.spec
  milestoneTypes := .ofList (d.milestoneTypes.map fun name => (lower name, ()))

/-- The catalog of a document. -/
def Catalog.ofDocument (d : Document) : Except CatalogError Catalog :=
  match d.fault with
  | some fault => .error fault
  | none => .ok (.assemble d)

/-- A document makes a catalog exactly if nothing is wrong with it. -/
theorem Catalog.ofDocument_eq_ok_iff {d : Document} {c : Catalog} :
    Catalog.ofDocument d = .ok c ↔ d.fault = none ∧ Catalog.assemble d = c := by
  unfold Catalog.ofDocument
  split <;> simp_all

/-- The catalog of a JSON text. -/
def Catalog.read (s : String) : Except CatalogError Catalog :=
  match Document.read? s with
  | some d => Catalog.ofDocument d
  | none => .error .unreadable

/-! ## The document of a catalog -/

/-- The entry that declares a field. -/
def FieldSpec.entry (spec : FieldSpec) : FieldEntry :=
  ⟨spec.name, spec.kind, spec.summarisable,
    if spec.column ≠ spec.name then some spec.column else none⟩

/-- The document that a catalog is kept as. -/
def Catalog.toDocument (c : Catalog) : Document where
  defaultGame := c.defaultGame
  tablePrefixes := c.tablePrefixes
  functions := c.functions.mapValues Accepted.name
  aliases := c.aliases
  gameFields := c.gameFields.map FieldSpec.entry
  milestoneFields := c.milestoneFields.map FieldSpec.entry
  milestoneTypes := c.milestoneTypes.names

/-- The JSON value of a dictionary of strings. -/
def dictionaryJson (d : Dictionary String) : Json :=
  .object (d.mapValues Json.string).entries

/-- The JSON value of the declaration of a field. -/
def FieldEntry.json (entry : FieldEntry) : Json :=
  .ofFields ([("name", .string entry.name), ("kind", .string entry.kind.name),
    ("summarisable", .bool entry.summarisable)] ++
    (entry.column.toList.map fun column => ("column", .string column)))

/-- The JSON value of a document. -/
def Document.json (d : Document) : Json :=
  .ofFields [("default_game_type", .string d.defaultGame),
    ("game_type_prefixes", dictionaryJson d.tablePrefixes),
    ("aggregate_function_types", dictionaryJson d.functions),
    ("column_aliases", dictionaryJson d.aliases),
    ("game_fields", .array (d.gameFields.map FieldEntry.json)),
    ("milestone_fields", .array (d.milestoneFields.map FieldEntry.json)),
    ("milestone_types", .array (d.milestoneTypes.map Json.string))]

end GameLog
