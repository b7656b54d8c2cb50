import GameLog.Catalog.Document

/-!
# Catalogs and their documents

A document may spell names in any letter case, name one thing twice in different cases, call kinds by one
letter, and give a field the column of its own name. A catalog has none of this left: its names are folded,
of two that fold to one the later counts, and its document says in one way what it is. Reading that
document gives the catalog again.

Main statements:
* `isFolded_assemble`: the names of a catalog that is assembled are folded;
* `assemble_toDocument`: a folded catalog is assembled again from its own document;
* `fault_toDocument`: nothing is wrong with the document of a catalog that was read;
* `ofDocument_toDocument`: a catalog that was read is read again from its own document.
-/

namespace GameLog

open GameLog.Text

/-! ## Folded names -/

/-- **A catalog is folded** if the names that are looked up in it in any letter case are in lower case. -/
structure Catalog.IsFolded (c : Catalog) : Prop where
  functions : ∀ entry ∈ c.functions.entries, lower entry.1 = entry.1
  aliases : ∀ entry ∈ c.aliases.entries, lower entry.1 = entry.1 ∧ lower entry.2 = entry.2
  fields : ∀ context, ∀ spec ∈ c.fields context, lower spec.name = spec.name
  milestoneTypes : ∀ entry ∈ c.milestoneTypes.entries, lower entry.1 = entry.1

/-- The declarations of the fields of a context in a document. -/
def Document.fieldEntries (d : Document) : Context → List FieldEntry
  | .game => d.gameFields
  | .milestone => d.milestoneFields

theorem Catalog.fields_assemble (d : Document) (context : Context) :
    (Catalog.assemble d).fields context = (d.fieldEntries context).map FieldEntry.spec := by
  cases context <;> rfl

theorem Catalog.fieldEntries_toDocument (c : Catalog) (context : Context) :
    c.toDocument.fieldEntries context = (c.fields context).map FieldSpec.entry := by
  cases context <;> rfl

/-- **The names of a catalog that is assembled are folded.** -/
theorem Catalog.isFolded_assemble (d : Document) : (Catalog.assemble d).IsFolded := by
  constructor
  · intro entry hentry
    obtain ⟨declared, -, haccepted⟩ :=
      List.mem_filterMap.mp (Dictionary.mem_of_mem_ofList hentry)
    obtain ⟨accepted, -, rfl⟩ := Option.map_eq_some_iff.mp haccepted
    exact lower_lower _
  · intro entry hentry
    obtain ⟨declared, -, rfl⟩ := List.mem_map.mp (Dictionary.mem_of_mem_ofList hentry)
    exact ⟨lower_lower _, lower_lower _⟩
  · intro context spec hspec
    rw [fields_assemble] at hspec
    obtain ⟨declared, -, rfl⟩ := List.mem_map.mp hspec
    exact lower_lower _
  · intro entry hentry
    obtain ⟨name, -, rfl⟩ := List.mem_map.mp (Dictionary.mem_of_mem_ofList hentry)
    exact lower_lower _

/-! ## Assembling again -/

theorem Dictionary.ofList_map_entries {α : Type} {f : String × α → String × α} {d : Dictionary α}
    (h : ∀ entry ∈ d.entries, f entry = entry) : Dictionary.ofList (d.entries.map f) = d := by
  have hsame : d.entries.map f = d.entries :=
    (List.map_congr_left h).trans d.entries.map_id
  rw [hsame, ofList_entries]

/-- A field with a folded name is declared by its own entry: a column that is left out is the one of that
name. -/
theorem FieldSpec.spec_entry {spec : FieldSpec} (h : lower spec.name = spec.name) :
    spec.entry.spec = spec := by
  obtain ⟨name, kind, summarisable, column⟩ := spec
  dsimp only at h
  by_cases hcolumn : column = name
  · simp [entry, FieldEntry.spec, h, hcolumn]
  · simp [entry, FieldEntry.spec, h, hcolumn]

theorem FieldSpec.map_spec_entry {specs : List FieldSpec}
    (h : ∀ spec ∈ specs, lower spec.name = spec.name) :
    (specs.map FieldSpec.entry).map FieldEntry.spec = specs := by
  rw [List.map_map]
  exact (List.map_congr_left fun spec hspec => spec_entry (h spec hspec)).trans specs.map_id

/-- The functions of a catalog take the same kinds in its document: each word is the one they are called
by there. -/
theorem Catalog.acceptedFunctions_toDocument {c : Catalog} (h : c.IsFolded) :
    c.toDocument.acceptedFunctions = c.functions := by
  have hentries : (c.toDocument.functions.entries.filterMap fun entry =>
      (Accepted.read? entry.2).map fun accepted => (lower entry.1, accepted)) =
      c.functions.entries.map fun entry => (lower entry.1, entry.2) := by
    simp only [toDocument, Dictionary.mapValues, List.filterMap_map, Function.comp_def,
      Accepted.read?_name, Option.map_some]
    exact congrFun List.filterMap_eq_map _
  unfold Document.acceptedFunctions
  rw [hentries]
  exact Dictionary.ofList_map_entries fun entry hentry => Prod.ext (h.functions entry hentry) rfl

/-- **A folded catalog is assembled again from its own document.** -/
theorem Catalog.assemble_toDocument {c : Catalog} (h : c.IsFolded) :
    Catalog.assemble c.toDocument = c := by
  have haliases : Dictionary.ofList (c.toDocument.aliases.entries.map fun entry =>
      (lower entry.1, lower entry.2)) = c.aliases :=
    Dictionary.ofList_map_entries fun entry hentry =>
      Prod.ext (h.aliases entry hentry).1 (h.aliases entry hentry).2
  have htypes : Dictionary.ofList (c.toDocument.milestoneTypes.map fun name => (lower name, ())) =
      c.milestoneTypes := by
    rw [toDocument, Dictionary.names, List.map_map]
    exact Dictionary.ofList_map_entries fun entry hentry =>
      Prod.ext (h.milestoneTypes entry hentry) rfl
  have hgames : c.toDocument.gameFields.map FieldEntry.spec = c.gameFields :=
    FieldSpec.map_spec_entry (h.fields .game)
  have hmilestones : c.toDocument.milestoneFields.map FieldEntry.spec = c.milestoneFields :=
    FieldSpec.map_spec_entry (h.fields .milestone)
  unfold assemble
  rw [acceptedFunctions_toDocument h, haliases, hgames, hmilestones, htypes]
  rfl

/-! ## Nothing wrong -/

/-- Nothing is wrong with a document exactly if its default game type has a table, all kinds that its
functions take exist, and nothing is wrong with the fields of either context. -/
theorem Document.fault_eq_none_iff {d : Document} :
    d.fault = none ↔ d.tablePrefixes.contains d.defaultGame = true ∧ functionsFault d = none ∧
      ∀ context, fieldsFault context (d.fieldEntries context) = none := by
  have hcontexts : (∀ context, fieldsFault context (d.fieldEntries context) = none) ↔
      fieldsFault .game d.gameFields = none ∧ fieldsFault .milestone d.milestoneFields = none := by
    constructor
    · exact fun h => ⟨h .game, h .milestone⟩
    · rintro ⟨hgame, hmilestone⟩ (_ | _)
      · exact hgame
      · exact hmilestone
  rw [hcontexts, fault]
  by_cases htable : d.tablePrefixes.contains d.defaultGame = true
  · simp [htable]
  · simp [htable]

/-- What is wrong with a list of fields is seen from their names in lower case. -/
theorem fieldsFault_eq_none_of_names {context : Context} {entries entries' : List FieldEntry}
    (hnames : entries'.map (fun entry => lower entry.name) =
      entries.map fun entry => lower entry.name)
    (h : fieldsFault context entries = none) : fieldsFault context entries' = none := by
  have hexists : ∀ name, (∃ entry ∈ entries, lower entry.name = name) →
      ∃ entry ∈ entries', lower entry.name = name := by
    intro name hentry
    rw [← List.mem_map, ← hnames] at hentry
    exact List.mem_map.mp hentry
  obtain ⟨hdistinct, hid, hjoin⟩ := fieldsFault_eq_none_iff.mp h
  rw [← hnames] at hdistinct
  exact fieldsFault_eq_none_iff.mpr ⟨hdistinct, hexists idField hid, hexists joinField hjoin⟩

theorem names_toDocument_assemble (d : Document) (context : Context) :
    ((Catalog.assemble d).toDocument.fieldEntries context).map (fun entry => lower entry.name) =
      (d.fieldEntries context).map fun entry => lower entry.name := by
  rw [Catalog.fieldEntries_toDocument, Catalog.fields_assemble, List.map_map, List.map_map]
  exact List.map_congr_left fun entry _ => lower_lower entry.name

/-- **Nothing is wrong with the document of a catalog that was read.** -/
theorem Catalog.fault_toDocument {d : Document} (h : d.fault = none) :
    (Catalog.assemble d).toDocument.fault = none := by
  obtain ⟨htable, -, hfields⟩ := Document.fault_eq_none_iff.mp h
  refine Document.fault_eq_none_iff.mpr ⟨htable, ?_, fun context =>
    fieldsFault_eq_none_of_names (names_toDocument_assemble d context) (hfields context)⟩
  have hread : ∀ entry ∈ (Catalog.assemble d).toDocument.functions.entries,
      ¬ (Accepted.read? entry.2).isNone = true := by
    intro entry hentry
    obtain ⟨known, -, rfl⟩ := List.mem_map.mp hentry
    simp [Accepted.read?_name]
  unfold functionsFault
  rw [List.find?_eq_none.mpr hread]
  rfl

/-- Of fields with distinct names each is found under its own. -/
theorem find?_name_of_nodup {specs : List FieldSpec} (h : (specs.map FieldSpec.name).Nodup)
    {spec : FieldSpec} (hspec : spec ∈ specs) :
    specs.find? (·.name == spec.name) = some spec := by
  induction specs with
  | nil => cases hspec
  | cons first rest ih =>
    obtain ⟨hfirst, hrest⟩ := List.nodup_cons.mp h
    rcases List.mem_cons.mp hspec with rfl | hspec
    · rw [List.find?_cons, beq_self_eq_true]
    · have hne : (first.name == spec.name) = false :=
        beq_eq_false_iff_ne.mpr fun heq => hfirst (heq ▸ List.mem_map_of_mem hspec)
      rw [List.find?_cons, hne]
      exact ih hrest hspec

/-- **A catalog that was read is read again from its own document**, whatever the document was that it was
read from; and each of its fields is found under its name. -/
theorem Catalog.ofDocument_toDocument {d : Document} {c : Catalog}
    (h : Catalog.ofDocument d = .ok c) :
    Catalog.ofDocument c.toDocument = .ok c ∧
      ∀ context, ∀ spec ∈ c.fields context, c.fieldIn? context spec.name = some spec := by
  obtain ⟨hfault, rfl⟩ := Catalog.ofDocument_eq_ok_iff.mp h
  refine ⟨Catalog.ofDocument_eq_ok_iff.mpr
    ⟨fault_toDocument hfault, assemble_toDocument (isFolded_assemble d)⟩, fun context spec hspec => ?_⟩
  obtain ⟨-, -, hfields⟩ := Document.fault_eq_none_iff.mp hfault
  obtain ⟨hdistinct, -⟩ := fieldsFault_eq_none_iff.mp (hfields context)
  refine find?_name_of_nodup ?_ hspec
  rw [fields_assemble, List.map_map]
  exact hdistinct

/-- A document with mixed letter case, with functions and aliases that fold to one name, with kinds called
by one letter, and with a column that is the name of its field. -/
def mixedDocument : Document where
  defaultGame := "Crawl"
  tablePrefixes := .ofList [("Crawl", ""), ("sprint", "spr_")]
  functions := .ofList [("AVG", "i"), ("avg", " S "), ("Max", "*")]
  aliases := .ofList [("Score", "SC"), ("score", "Xl")]
  gameFields := [⟨"ID", .integer, false, none⟩, ⟨"Game_Key", .text, false, some "game_key"⟩,
    ⟨"XL", .integer, true, some "level"⟩]
  milestoneFields := [⟨"id", .integer, false, some "id"⟩, ⟨"game_key", .text, false, none⟩]
  milestoneTypes := ["Rune", "rune", "ORB"]

/-- The catalog of a document with mixed letter case is read again from its own document, which is another
one. -/
theorem mixed_document_read_again : ∃ c, Catalog.ofDocument mixedDocument = .ok c ∧
    c.toDocument ≠ mixedDocument ∧ Catalog.ofDocument c.toDocument = .ok c ∧
      (c.fieldIn? .game "xl").map FieldSpec.column = some "level" := by
  have hread : Catalog.ofDocument mixedDocument = .ok (Catalog.assemble mixedDocument) :=
    Catalog.ofDocument_eq_ok_iff.mpr ⟨by decide +kernel, rfl⟩
  refine ⟨_, hread, ?_, (Catalog.ofDocument_toDocument hread).1, ?_⟩
  · decide +kernel
  · decide +kernel

end GameLog
