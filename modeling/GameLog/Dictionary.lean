/-!
# Dictionaries

A dictionary holds values by name, one for each name, in the order of the names by code point. The
order and the uniqueness are part of the type, so dictionaries with the same values are equal.

Main statements:
* `mem_of_mem_ofList`: a dictionary has no entries but those it is made of;
* `find?_insert`: what is found after a value is put in;
* `ofList_entries`: a dictionary is made again from its entries.
-/

namespace GameLog

/-- Values by name, in the order of the names. -/
structure Dictionary (α : Type) where
  entries : List (String × α)
  sorted : entries.Pairwise fun a b => a.1 < b.1

namespace Dictionary

variable {α β : Type}

instance [DecidableEq α] : DecidableEq (Dictionary α) := fun a b =>
  if h : a.entries = b.entries then
    isTrue (by cases a; cases b; simp_all)
  else isFalse fun e => h (congrArg entries e)

theorem eq_of_entries {a b : Dictionary α} (h : a.entries = b.entries) : a = b := by
  cases a; cases b; simp_all

/-- No values. -/
def empty : Dictionary α := ⟨[], .nil⟩

/-! ## Putting values in -/

/-- Entries with a value put in at its place, for the value of its name if there is one. -/
def insertEntry (name : String) (value : α) : List (String × α) → List (String × α)
  | [] => [(name, value)]
  | entry :: rest =>
    if name < entry.1 then (name, value) :: entry :: rest
    else if entry.1 < name then entry :: insertEntry name value rest
    else (name, value) :: rest

/-- The entries after a value is put in are that one and old ones. -/
theorem mem_insertEntry {name : String} {value : α} {entries : List (String × α)}
    {entry : String × α} (h : entry ∈ insertEntry name value entries) :
    entry = (name, value) ∨ entry ∈ entries := by
  induction entries with
  | nil => simpa [insertEntry] using h
  | cons head rest ih =>
    simp only [insertEntry] at h
    split at h
    · simpa using h
    · split at h
      · rcases List.mem_cons.1 h with rfl | h
        · simp
        · rcases ih h with rfl | h <;> simp_all
      · rcases List.mem_cons.1 h with rfl | h <;> simp_all

/-- Entries in order stay in order when a value is put in. -/
theorem sorted_insertEntry (name : String) (value : α) {entries : List (String × α)}
    (h : entries.Pairwise fun a b => a.1 < b.1) :
    (insertEntry name value entries).Pairwise fun a b => a.1 < b.1 := by
  induction entries with
  | nil => simp [insertEntry]
  | cons head rest ih =>
    obtain ⟨hhead, hrest⟩ := List.pairwise_cons.1 h
    simp only [insertEntry]
    split
    · rename_i hlt
      refine List.pairwise_cons.2 ⟨fun b hb => ?_, h⟩
      rcases List.mem_cons.1 hb with rfl | hb
      · exact hlt
      · exact String.lt_trans hlt (hhead b hb)
    · split
      · rename_i hnot hlt
        refine List.pairwise_cons.2 ⟨fun b hb => ?_, ih hrest⟩
        rcases mem_insertEntry hb with rfl | hb
        · exact hlt
        · exact hhead b hb
      · rename_i hnot hnot'
        have heq : name = head.1 :=
          String.le_antisymm (String.not_lt.1 hnot') (String.not_lt.1 hnot)
        refine List.pairwise_cons.2 ⟨fun b hb => ?_, hrest⟩
        simpa [heq] using hhead b hb

/-- A dictionary with a value put in for its name. -/
def insert (d : Dictionary α) (name : String) (value : α) : Dictionary α :=
  ⟨insertEntry name value d.entries, sorted_insertEntry name value d.sorted⟩

/-- The dictionary of a list of entries, of which the last one of a name counts. -/
def ofList (entries : List (String × α)) : Dictionary α :=
  entries.foldl (fun d entry => d.insert entry.1 entry.2) empty

/-- The entries of a dictionary of a list are entries of the list. -/
theorem mem_of_mem_ofList {entries : List (String × α)} {entry : String × α}
    (h : entry ∈ (ofList entries).entries) : entry ∈ entries := by
  have hfold : ∀ d : Dictionary α,
      entry ∈ (entries.foldl (fun d entry => d.insert entry.1 entry.2) d).entries →
        entry ∈ d.entries ∨ entry ∈ entries := by
    clear h
    induction entries with
    | nil => exact fun d hd => .inl hd
    | cons head rest ih =>
      intro d hd
      rcases ih (d.insert head.1 head.2) hd with hold | hrest
      · rcases mem_insertEntry hold with rfl | hold
        · exact .inr (by simp)
        · exact .inl hold
      · exact .inr (by simp [hrest])
  rcases hfold empty h with hnone | hmem
  · cases hnone
  · exact hmem

/-! ## Looking values up -/

/-- The value of a name among entries. -/
def lookup (name : String) : List (String × α) → Option α
  | [] => none
  | entry :: rest => if name = entry.1 then some entry.2 else lookup name rest

/-- The value of a name. -/
def find? (d : Dictionary α) (name : String) : Option α := lookup name d.entries

/-- Whether there is a value of a name. -/
def contains (d : Dictionary α) (name : String) : Bool := (d.find? name).isSome

/-- The names in order. -/
def names (d : Dictionary α) : List String := d.entries.map (·.1)

/-- The dictionary with a function applied to its values. -/
def mapValues (f : α → β) (d : Dictionary α) : Dictionary β :=
  ⟨d.entries.map fun entry => (entry.1, f entry.2), by
    rw [List.pairwise_map]; exact d.sorted⟩

/-- What is found among entries after a value is put in. -/
theorem lookup_insertEntry (name key : String) (value : α) (entries : List (String × α)) :
    lookup key (insertEntry name value entries) =
      if key = name then some value else lookup key entries := by
  induction entries with
  | nil => simp [insertEntry, lookup]
  | cons head rest ih =>
    simp only [insertEntry]
    split
    · simp [lookup]
    · split
      · rename_i hnot hlt
        simp only [lookup, ih]
        by_cases h : key = name
        · have hne : key ≠ head.1 := fun e => String.lt_irrefl _ (by rw [← e, h] at hlt; exact hlt)
          rw [if_neg hne, if_pos h, if_pos h]
        · simp [h]
      · rename_i hnot hnot'
        have heq : name = head.1 :=
          String.le_antisymm (String.not_lt.1 hnot') (String.not_lt.1 hnot)
        simp only [lookup, heq]
        split <;> rfl

/-- After a value is put in, it is found under its name, and all else as before. -/
theorem find?_insert (d : Dictionary α) (name key : String) (value : α) :
    (d.insert name value).find? key = if key = name then some value else d.find? key :=
  lookup_insertEntry name key value d.entries

/-! ## Making a dictionary again -/

theorem insertEntry_last {name : String} {value : α} {entries : List (String × α)}
    (h : ∀ entry ∈ entries, entry.1 < name) :
    insertEntry name value entries = entries ++ [(name, value)] := by
  induction entries with
  | nil => rfl
  | cons head rest ih =>
    have hlt := h head (by simp)
    have hnot : ¬ name < head.1 := fun h' => String.lt_irrefl _ (String.lt_trans hlt h')
    simp [insertEntry, hlt, hnot, ih fun e he => h e (by simp [he])]

theorem entries_foldl_insert (rest : List (String × α)) (d : Dictionary α)
    (h : (d.entries ++ rest).Pairwise fun a b => a.1 < b.1) :
    (rest.foldl (fun d entry => d.insert entry.1 entry.2) d).entries = d.entries ++ rest := by
  induction rest generalizing d with
  | nil => simp
  | cons entry rest ih =>
    have hlast : (d.insert entry.1 entry.2).entries = d.entries ++ [entry] :=
      insertEntry_last fun e he => (List.pairwise_append.1 h).2.2 e he entry (by simp)
    rw [List.foldl_cons, ih _ (by rw [hlast]; simpa using h), hlast]
    simp

/-- A dictionary is made again from its entries. -/
theorem ofList_entries (d : Dictionary α) : ofList d.entries = d :=
  eq_of_entries (by simpa [ofList, empty] using entries_foldl_insert d.entries empty (by
    simpa [empty] using d.sorted))

end Dictionary

end GameLog
