import GameLog.Json.Printer
import GameLog.Json.Value
import GameLog.Store.Basic

/-!
# Stores in files

A store is kept in a file as a JSON value: its tables with their columns and rows, and the names of
its indexes. Main statement: `ofJson?_json`, a store is read back from its own value.
-/

namespace GameLog

/-! ## Writing -/

/-- A cell as a JSON value. Numbers that are not whole are kept by their bits. -/
def Cell.json : Cell → Json
  | null => .null
  | integer n => .number (.whole n)
  | text s => .string s
  | real x => .object [("real", .number (.whole x.bits.toNat))]
  | blob bytes => .array (bytes.map fun b => .number (.whole b.toNat))

/-- A column as a JSON value. -/
def ColumnSpec.json (c : ColumnSpec) : Json :=
  .array [.string c.name, .bool (c.storage == .text), .bool c.primary]

/-- A table as a JSON value. -/
def Table.json (t : Table) : Json :=
  .array [.string t.name, .array (t.columns.map ColumnSpec.json),
    .array (t.rows.map fun row => .array (row.map Cell.json))]

/-- A store as a JSON value. -/
def Store.json (s : Store) : Json :=
  .array [.array (s.tables.map Table.json), .array (s.indexes.map .string)]

/-! ## Reading -/

/-- The byte of a JSON value. -/
def byteOfJson? : Json → Option UInt8
  | .number (.whole n) => some (UInt8.ofNat n.toNat)
  | _ => none

/-- The cell of a JSON value. -/
def Cell.ofJson? : Json → Option Cell
  | .null => some .null
  | .number (.whole n) => some (.integer n)
  | .string s => some (.text s)
  | .object [(_, .number (.whole bits))] => some (.real ⟨UInt64.ofNat bits.toNat⟩)
  | .array bytes => (bytes.mapM byteOfJson?).map .blob
  | _ => none

/-- The column of a JSON value. -/
def ColumnSpec.ofJson? : Json → Option ColumnSpec
  | .array [.string name, .bool isText, .bool primary] =>
    some ⟨name, if isText then .text else .integer, primary⟩
  | _ => none

/-- The row of a JSON value. -/
def rowOfJson? : Json → Option (List Cell)
  | .array cells => cells.mapM Cell.ofJson?
  | _ => none

/-- The table of a JSON value. -/
def Table.ofJson? : Json → Option Table
  | .array [.string name, .array columns, .array rows] => do
    return ⟨name, ← columns.mapM ColumnSpec.ofJson?, ← rows.mapM rowOfJson?⟩
  | _ => none

/-- The name of a JSON value. -/
def nameOfJson? : Json → Option String
  | .string s => some s
  | _ => none

/-- The store of a JSON value. -/
def Store.ofJson? : Json → Option Store
  | .array [.array tables, .array indexes] => do
    return ⟨← tables.mapM Table.ofJson?, ← indexes.mapM nameOfJson?⟩
  | _ => none

/-! ## Round trip -/

theorem mapM_map_some {α β : Type} {write : α → β} {read? : β → Option α}
    (h : ∀ a, read? (write a) = some a) (as : List α) : (as.map write).mapM read? = some as := by
  induction as with
  | nil => rfl
  | cons a as ih => simp [h, ih]

/-- A cell is read back from its own value. -/
theorem Cell.ofJson?_json (c : Cell) : ofJson? c.json = some c := by
  cases c with
  | blob bytes =>
    simp only [json, ofJson?]
    rw [mapM_map_some (fun b => by simp [byteOfJson?])]
    rfl
  | real x => simp [json, ofJson?]
  | _ => rfl

/-- A column is read back from its own value. -/
theorem ColumnSpec.ofJson?_json (c : ColumnSpec) : ofJson? c.json = some c := by
  rcases c with ⟨name, _ | _, primary⟩ <;> rfl

/-- A table is read back from its own value. -/
theorem Table.ofJson?_json (t : Table) : ofJson? t.json = some t := by
  have rows : ∀ row : List Cell, rowOfJson? (.array (row.map Cell.json)) = some row :=
    fun row => mapM_map_some Cell.ofJson?_json row
  simp [json, ofJson?, mapM_map_some ColumnSpec.ofJson?_json, mapM_map_some rows]

/-- A store is read back from its own value. -/
theorem Store.ofJson?_json (s : Store) : ofJson? s.json = some s := by
  have names : ∀ l : List String, (l.map Json.string).mapM nameOfJson? = some l :=
    mapM_map_some fun s => show nameOfJson? (Json.string s) = some s from rfl
  simp [json, ofJson?, mapM_map_some Table.ofJson?_json, names]

/-! ## Text -/

/-- The text of the file that keeps a store. -/
def Store.fileText (s : Store) : String := s.json.compact

/-- The store that the text of a file keeps. Nothing at all is the store without tables. -/
def Store.ofFileText? (text : String) : Option Store :=
  if text = "" then some .empty else (Json.read? text).bind ofJson?

end GameLog
