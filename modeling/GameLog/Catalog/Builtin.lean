import GameLog.Catalog.Document

/-!
# The built-in catalog

The catalog that is used if no document is given. Main statement: `fault_builtinDocument`, nothing
is wrong with its document.
-/

namespace GameLog

/-- An entry that is kept under its own name. -/
def plainEntry (kind : Kind) (name : String) : FieldEntry := ⟨name, kind, true, none⟩

/-- An entry that reports are not grouped by. -/
def looseEntry (kind : Kind) (name : String) : FieldEntry := ⟨name, kind, false, none⟩

/-- An entry that is kept in a column of another name. -/
def keptEntry (kind : Kind) (name column : String) : FieldEntry := ⟨name, kind, true, some column⟩

/-- The fields of a finished game. -/
def builtinGameFields : List FieldEntry :=
  [looseEntry .integer "id"] ++
  ["file", "src", "v", "cv", "name", "race", "cls"].map (plainEntry .text) ++
  [keptEntry .text "char" "charabbrev", plainEntry .integer "xl", plainEntry .text "sk",
    plainEntry .integer "sklev"] ++
  ["title", "ktyp", "killer", "kaux", "place", "br"].map (plainEntry .text) ++
  [plainEntry .integer "lvl", plainEntry .text "ltyp"] ++
  ["hp", "mhp", "mmhp", "dam"].map (plainEntry .integer) ++
  [keptEntry .integer "str" "sstr", keptEntry .integer "int" "sint",
    keptEntry .integer "dex" "sdex", plainEntry .text "god", plainEntry .integer "piety",
    plainEntry .integer "pen", plainEntry .boolean "wiz", keptEntry .date "start" "tstart",
    keptEntry .date "end" "tend"] ++
  ["dur", "turn", "urune", "nrune"].map (plainEntry .integer) ++
  [looseEntry .text "tmsg", looseEntry .text "vmsg", plainEntry .text "splat",
    plainEntry .integer "sc", plainEntry .boolean "tiles", looseEntry .text "game_key"]

/-- The fields of a milestone. -/
def builtinMilestoneFields : List FieldEntry :=
  [looseEntry .integer "id"] ++
  ["file", "src", "v", "cv", "name", "race", "cls"].map (plainEntry .text) ++
  [keptEntry .text "char" "charabbrev", plainEntry .integer "xl", plainEntry .text "sk",
    plainEntry .integer "sklev"] ++
  ["title", "place", "br"].map (plainEntry .text) ++
  [plainEntry .integer "lvl", plainEntry .text "ltyp"] ++
  ["hp", "mhp", "mmhp"].map (plainEntry .integer) ++
  [plainEntry .text "god"] ++
  ["dur", "turn", "urune", "nrune"].map (plainEntry .integer) ++
  [keptEntry .date "time" "mtime", plainEntry .date "rstart", plainEntry .text "verb",
    plainEntry .text "noun", looseEntry .text "milestone", looseEntry .text "game_key"]

/-- The document of the built-in catalog. -/
def builtinDocument : Document where
  defaultGame := "crawl"
  tablePrefixes := .ofList [("crawl", ""), ("sprint", "spr_"), ("zotdef", "zot_")]
  functions := .ofList [("avg", "integer"), ("cdist", "*"), ("max", "*"), ("min", "*"),
    ("sum", "integer")]
  aliases := .ofList [("class", "cls"), ("role", "cls"), ("species", "race"), ("sp", "race"),
    ("ch", "char"), ("gid", "game_key"), ("k", "killer"), ("ki", "killer"), ("ktype", "ktyp"),
    ("score", "sc"), ("turns", "turn"), ("duration", "dur"), ("version", "v"), ("server", "src"),
    ("runes", "urune"), ("type", "verb")]
  gameFields := builtinGameFields
  milestoneFields := builtinMilestoneFields
  milestoneTypes := ["abyss.enter", "abyss.exit", "br.enter", "br.end", "god.worship",
    "god.renounce", "god.mollify", "rune", "orb", "uniq", "ghost", "shaft", "sacrifice"]

/-- The built-in catalog. -/
def Catalog.builtin : Catalog := .assemble builtinDocument

/-- Nothing is wrong with the built-in document. -/
theorem fault_builtinDocument : builtinDocument.fault = none := by decide +kernel

end GameLog
