import GameLog.Catalog.Document
import GameLog.Store.Schema

/-!
# What an accepted catalog declares

Every game type has a table of games and a table of milestones. Two game types may name the same table;
it is declared for each of them, and the store goes by the first declaration that it reads. All
declarations of a name have the same columns though: what stands behind the name of a game type in the
name of a table tells games and milestones apart.

Main statements:
* `complete_of_read`: an accepted catalog has a table for its default game type and the fields that
  every table needs;
* `declares_of_hasColumn`: each column of a context is declared by the tables of that context;
* `Catalog.Complete.indexes_fit`: indexes are by columns that their tables declare.
-/

namespace GameLog

open GameLog.Text

/-! ## Accepted catalogs -/

/-- What is found under a name is an entry of that name. -/
theorem Dictionary.mem_of_find? {α : Type} {d : Dictionary α} {name : String} {value : α}
    (h : d.find? name = some value) : (name, value) ∈ d.entries := by
  unfold Dictionary.find? at h
  generalize d.entries = entries at h ⊢
  induction entries with
  | nil => cases h
  | cons entry entries ih =>
    rw [Dictionary.lookup] at h
    split at h
    · rename_i hname
      obtain rfl := Option.some.inj h
      simp [hname]
    · exact List.mem_cons_of_mem _ (ih h)

theorem Dictionary.mem_names_of_contains {α : Type} {d : Dictionary α} {name : String}
    (h : d.contains name = true) : name ∈ d.names := by
  obtain ⟨value, hvalue⟩ := Option.isSome_iff_exists.mp h
  exact List.mem_map.mpr ⟨(name, value), Dictionary.mem_of_find? hvalue, rfl⟩

namespace Catalog

/-- A catalog keeps some field of a context in a column. -/
def HasColumn (c : Catalog) (context : Context) (column : String) : Prop :=
  ∃ spec ∈ c.fields context, spec.column = column

/-- **A catalog is complete**: there are tables for its default game type, and each context has the
field that tells rows apart and the one that milestones share with games. -/
structure Complete (c : Catalog) : Prop where
  table : c.defaultGame ∈ c.tablePrefixes.names
  id : ∀ context, ∃ spec ∈ c.fields context, spec.name = idField
  join : ∀ context, ∃ spec ∈ c.fields context, spec.name = joinField

/-- **A catalog keeps its keys**: the field that tells rows apart and the one that milestones share with
games are kept in columns of their own names. -/
def KeepsKeys (c : Catalog) : Prop :=
  ∀ context, ∀ spec ∈ c.fields context,
    spec.name = idField ∨ spec.name = joinField → spec.column = spec.name

variable {c : Catalog}

/-- **An accepted catalog is complete.** -/
theorem complete_of_read {text : String} (h : Catalog.read text = .ok c) : c.Complete := by
  unfold Catalog.read at h
  split at h
  · rename_i d _
    obtain ⟨hfault, rfl⟩ := Catalog.ofDocument_eq_ok_iff.mp h
    unfold Document.fault at hfault
    split at hfault
    · cases hfault
    · rename_i htable
      obtain ⟨-, hfields⟩ := Option.or_eq_none_iff.mp hfault
      obtain ⟨hgames, hmilestones⟩ := Option.or_eq_none_iff.mp hfields
      obtain ⟨-, ⟨gameId, hgameId, hgameIdName⟩, gameJoin, hgameJoin, hgameJoinName⟩ :=
        fieldsFault_eq_none_iff.mp hgames
      obtain ⟨-, ⟨id, hid, hidName⟩, join, hjoin, hjoinName⟩ :=
        fieldsFault_eq_none_iff.mp hmilestones
      refine ⟨?_, fun context => ?_, fun context => ?_⟩
      · rw [Bool.not_eq_true', Bool.not_eq_false] at htable
        exact Dictionary.mem_names_of_contains htable
      · cases context with
        | game => exact ⟨_, List.mem_map.mpr ⟨gameId, hgameId, rfl⟩, hgameIdName⟩
        | milestone => exact ⟨_, List.mem_map.mpr ⟨id, hid, rfl⟩, hidName⟩
      · cases context with
        | game => exact ⟨_, List.mem_map.mpr ⟨gameJoin, hgameJoin, rfl⟩, hgameJoinName⟩
        | milestone => exact ⟨_, List.mem_map.mpr ⟨join, hjoin, rfl⟩, hjoinName⟩
  · cases h

theorem KeepsKeys.hasColumn (h : c.KeepsKeys) {context : Context} {name : String}
    (hkey : name = idField ∨ name = joinField) (hspec : ∃ spec ∈ c.fields context, spec.name = name) :
    c.HasColumn context name := by
  obtain ⟨spec, hmem, rfl⟩ := hspec
  exact ⟨spec, hmem, h context spec hmem hkey⟩

end Catalog

/-! ## Declared columns -/

/-- **A table declares a column**: it is declared, and every declaration of a table with its name, in
any letter case, has the column. -/
structure Declares (declarations : List Declaration) (table column : String) : Prop where
  declared : ∃ columns, .table table columns ∈ declarations
  column : ∀ other columns, .table other columns ∈ declarations → sameLetters other table = true →
    ∃ spec ∈ columns, spec.name = column

/-- Indexes are by columns that their tables declare. -/
def Declaration.Fits (declarations : List Declaration) : Declaration → Prop
  | .table _ _ => True
  | .index _ base columns => ∀ column ∈ columns, Declares declarations base column

theorem lower_append (a b : String) : lower (a ++ b) = lower a ++ lower b := by
  simp [lower, String.ofList_append]

theorem context_of_sameLetters {c : Catalog} {context context' : Context} {game game' : String}
    (h : sameLetters (c.tableName context game) (c.tableName context' game') = true) :
    context = context' := by
  have hsame : lower (c.tableName context game) = lower (c.tableName context' game') :=
    beq_iff_eq.mp h
  have hchars := congrArg String.toList hsame
  simp only [Catalog.tableName, lower_append, String.toList_append] at hchars
  have hbase : (lower context.baseTable).toList = (lower context'.baseTable).toList :=
    List.append_inj_right' hchars (by cases context <;> cases context' <;> decide)
  cases context <;> cases context' <;> first | rfl | exact absurd hbase (by decide)

theorem exists_context_of_table {c : Catalog} {table : String} {columns : List ColumnSpec}
    (h : .table table columns ∈ c.declarations) : ∃ game context,
      table = c.tableName context game ∧ columns = (c.fields context).map FieldSpec.columnSpec := by
  obtain ⟨game, -, h⟩ := List.mem_flatMap.mp h
  obtain ⟨context, -, h⟩ := List.mem_flatMap.mp h
  exact ⟨game, context, by simpa [Catalog.declarationsOf] using h⟩

theorem columnSpec_name (spec : FieldSpec) : spec.columnSpec.name = spec.column := by
  unfold FieldSpec.columnSpec
  split <;> rfl

variable {c : Catalog}

/-- **Each column of a context is declared by the tables of that context.** -/
theorem declares_of_hasColumn {game : String} (hgame : game ∈ c.tablePrefixes.names)
    {context : Context} {column : String} (h : c.HasColumn context column) :
    Declares c.declarations (c.tableName context game) column := by
  refine ⟨⟨_, Catalog.mem_declarations hgame context⟩, fun other columns hother hsame => ?_⟩
  obtain ⟨spec, hspec, rfl⟩ := h
  obtain ⟨game', context', rfl, rfl⟩ := exists_context_of_table hother
  obtain rfl := context_of_sameLetters hsame
  exact ⟨_, List.mem_map.mpr ⟨spec, hspec, rfl⟩, columnSpec_name spec⟩

/-- **Indexes are by columns that their tables declare.** -/
theorem Catalog.Complete.indexes_fit (h : c.Complete) (hkeys : c.KeepsKeys) :
    ∀ d ∈ c.declarations, d.Fits c.declarations := by
  intro d hd
  obtain ⟨game, hgame, hd⟩ := List.mem_flatMap.mp hd
  obtain ⟨context, -, hd⟩ := List.mem_flatMap.mp hd
  have hid : c.HasColumn context idField := hkeys.hasColumn (.inl rfl) (h.id context)
  have hjoin : c.HasColumn context joinField := hkeys.hasColumn (.inr rfl) (h.join context)
  rcases List.mem_append.mp hd with hd | hd
  · simp only [List.mem_cons, List.not_mem_nil, or_false] at hd
    rcases hd with rfl | rfl
    · trivial
    · intro column hcolumn
      obtain rfl := List.mem_singleton.mp hcolumn
      exact declares_of_hasColumn hgame hjoin
  · obtain ⟨sort, hsort, rfl⟩ := Option.map_eq_some_iff.mp (Option.mem_toList.mp hd)
    have hcolumn : c.HasColumn context sort.column := ⟨sort, List.mem_of_find?_eq_some hsort, rfl⟩
    intro column hmem
    simp only [List.mem_cons, List.not_mem_nil, or_false] at hmem
    rcases hmem with rfl | rfl
    · exact declares_of_hasColumn hgame hcolumn
    · exact declares_of_hasColumn hgame hid

end GameLog
