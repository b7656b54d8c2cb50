import GameLog.Query.Grouping

/-!
# Clauses in text

An item of a clause is written as it was asked for, a clause without blanks. Functions are words and
fields are names, so that an item has one reading.

Main statements:
* `readItem?_text`: an item is read back from its text;
* `extraItems?_extraClause`, `groupItems?_groupClause`: so are the items of a clause.
-/

namespace GameLog

open GameLog.Text

/-! ## Items -/

/-- The text of a field or of a function of a field. -/
def ClauseItem.subject (item : ClauseItem) : List Char :=
  match item.function with
  | some function => function.toList ++ '(' :: (item.field.toList ++ [')'])
  | none => item.field.toList

/-- The text of an item: a minus sign if its order is turned around, a field or a function of a
field, and a percent sign if it is marked. -/
def ClauseItem.text (item : ClauseItem) : List Char :=
  (if item.direction = .ascending then ['-'] else []) ++ item.subject ++
    (if item.percent then ['%'] else [])

/-- Whether the parts of an item have the form of names, and percent signs are allowed for. -/
def ClauseItem.wellFormed (percents : Bool) (item : ClauseItem) : Bool :=
  isName item.field.toList &&
    item.function.all (fun function => !function.isEmpty && function.toList.all isWord) &&
    (percents || !item.percent)

theorem call?_text {function field : List Char} (hne : function ≠ [])
    (hf : ∀ c ∈ function, isWord c = true) (h : isName field = true) :
    call? (function ++ '(' :: (field ++ [')'])) = some (function, field) := by
  have hp : isWord '(' = false := by decide
  simp [call?, List.takeWhile_append_of_pos hf, List.dropWhile_append_of_pos hf,
    hp, trimmed_of_isName h, h, hne]

/-- The text of a field or of a function of a field starts with a word character. -/
theorem ClauseItem.subject_eq_cons {item : ClauseItem} {percents : Bool}
    (h : item.wellFormed percents = true) :
    ∃ c cs, item.subject = c :: cs ∧ isWord c = true := by
  simp only [wellFormed, Bool.and_eq_true] at h
  rcases item with ⟨direction, _ | function, field, percent⟩
  · cases hf : field.toList with
    | nil => simp [hf, isName] at h
    | cons c cs =>
      simp only [hf, isName, Bool.and_eq_true, isNameStart, Bool.or_eq_true, beq_iff_eq] at h
      exact ⟨c, cs, hf, isWord_of_isAlpha h.1.1.1⟩
  · cases hf : function.toList with
    | nil => simp_all
    | cons c cs =>
      simp [hf] at h
      exact ⟨c, cs ++ '(' :: (field.toList ++ [')']), by simp [subject, hf], h.1.2.2.1⟩

/-- No percent sign stands in the text of a field or of a function of a field. -/
theorem ClauseItem.percent_notMem_subject {item : ClauseItem} {percents : Bool}
    (h : item.wellFormed percents = true) : '%' ∉ item.subject := by
  simp only [wellFormed, Bool.and_eq_true] at h
  have hname : '%' ∉ item.field.toList := fun hc =>
    absurd (isNameChar_of_isName h.1.1 _ hc) (by decide)
  rcases item with ⟨direction, _ | function, field, percent⟩
  · exact hname
  · have hfun : '%' ∉ function.toList := fun hc => by
      have := h.1.2
      simp only [Option.all_some, Bool.and_eq_true, List.all_eq_true] at this
      exact absurd (this.2 _ hc) (by decide)
    simp_all [subject]

/-- An item is read back from its text. -/
theorem readItem?_text {item : ClauseItem} {percents : Bool}
    (h : item.wellFormed percents = true) : readItem? percents item.text = some item := by
  obtain ⟨c, cs, hc, hw⟩ := item.subject_eq_cons h
  have sign : takeSign item.text =
      (item.direction, item.subject ++ if item.percent then ['%'] else []) := by
    unfold ClauseItem.text
    cases hd : item.direction with
    | ascending => rfl
    | descending =>
      have : c ≠ '-' ∧ c ≠ '+' := ⟨by rintro rfl; exact absurd hw (by decide),
        by rintro rfl; exact absurd hw (by decide)⟩
      simp only [hc, reduceCtorEq, if_false, List.nil_append, List.cons_append]
      unfold takeSign
      split <;> simp_all
  have mark : takePercent percents (item.subject ++ if item.percent then ['%'] else []) =
      (item.percent, item.subject) := by
    have hp := item.percent_notMem_subject h
    simp only [ClauseItem.wellFormed, Bool.and_eq_true] at h
    cases hm : item.percent with
    | true =>
      have : percents = true := by simpa [hm] using h.2
      simp [takePercent, this]
    | false =>
      have : item.subject.getLast? ≠ some '%' := fun hl => hp (List.mem_of_getLast? hl)
      simp [takePercent, this]
  simp only [readItem?, sign, mark]
  simp only [ClauseItem.wellFormed, Bool.and_eq_true] at h
  rcases item with ⟨direction, _ | function, field, percent⟩
  · simp [ClauseItem.subject, call?_of_isName h.1.1, h.1.1]
  · have hf := h.1.2
    simp only [Option.all_some, Bool.and_eq_true, List.all_eq_true, Bool.not_eq_true',
      String.isEmpty_eq_false_iff] at hf
    rw [ClauseItem.subject, call?_text (by simpa using hf.1) hf.2 h.1.1]
    simp

/-! ## Clauses -/

/-- The text of items with commas between them. -/
def itemsText (items : List ClauseItem) : List Char :=
  List.intercalate [','] (items.map ClauseItem.text)

/-- A clause that asks for extra columns. -/
def extraClause (items : List ClauseItem) : String := String.ofList ('x' :: '=' :: itemsText items)

/-- A clause that asks for groups. -/
def groupClause (items : List ClauseItem) : String := String.ofList ('s' :: '=' :: itemsText items)

/-- The characters that the text of an item is made of. -/
theorem ClauseItem.mem_text {item : ClauseItem} {percents : Bool}
    (h : item.wellFormed percents = true) {c : Char} (hc : c ∈ item.text) :
    isNameChar c = true ∨ c ∈ ['-', '(', ')', '%'] := by
  simp only [wellFormed, Bool.and_eq_true] at h
  have hn := isNameChar_of_isName h.1.1
  simp only [text, List.mem_append] at hc
  rcases hc with (hc | hc) | hc
  · split at hc <;> simp_all
  · rcases item with ⟨direction, _ | function, field, percent⟩
    · exact .inl (hn c hc)
    · have hf := h.1.2
      simp only [Option.all_some, Bool.and_eq_true, List.all_eq_true] at hf
      simp only [subject, List.mem_append, List.mem_cons] at hc
      rcases hc with hc | rfl | hc | rfl | hc
      · exact .inl (by simp [isNameChar, hf.2 c hc])
      · simp
      · exact .inl (hn c hc)
      · simp
      · simp at hc
  · split at hc <;> simp_all

theorem ClauseItem.plain_of_mem_text {item : ClauseItem} {percents : Bool}
    (h : item.wellFormed percents = true) {c : Char} (hc : c ∈ item.text) :
    isBlank c = false ∧ c ≠ ',' := by
  rcases mem_text h hc with hn | hn
  · exact ⟨isBlank_of_isNameChar hn, by rintro rfl; exact absurd hn (by decide)⟩
  · simp only [List.mem_cons, List.not_mem_nil, or_false] at hn
    rcases hn with rfl | rfl | rfl | rfl <;> decide

/-- Items are read back from their text. -/
theorem readItems?_itemsText {items : List ClauseItem} {percents : Bool} (hne : items ≠ [])
    (h : ∀ item ∈ items, item.wellFormed percents = true) :
    readItems? percents (itemsText items) = some items := by
  have parts : commaParts (itemsText items) = items.map ClauseItem.text := by
    refine List.splitOn_intercalate ',' ?_ (by simpa using hne)
    rintro _ hl hc
    obtain ⟨item, hi, rfl⟩ := List.mem_map.1 hl
    exact (item.plain_of_mem_text (h item hi) hc).2 rfl
  rw [readItems?, parts]
  clear parts hne
  induction items with
  | nil => rfl
  | cons item items ih =>
    have hi := h item (by simp)
    have ht : trimmed item.text = item.text :=
      trimmed_of_forall fun c hc => (item.plain_of_mem_text hi hc).1
    simp [List.mapM_cons, ht, readItem?_text hi, ih fun item hm => h item (by simp [hm])]

/-- Nothing in the text of items is blank. -/
theorem isBlank_of_mem_itemsText {items : List ClauseItem} {percents : Bool}
    (h : ∀ item ∈ items, item.wellFormed percents = true) {c : Char} (hc : c ∈ itemsText items) :
    isBlank c = false := by
  induction items with
  | nil => simp [itemsText] at hc
  | cons item items ih =>
    cases items with
    | nil =>
      have : c ∈ item.text := by simpa [itemsText] using hc
      exact (item.plain_of_mem_text (h item (by simp)) this).1
    | cons next rest =>
      simp only [itemsText, List.map_cons, List.intercalate_cons_cons, List.mem_append] at hc ih
      rcases hc with (hc | hc) | hc
      · exact (item.plain_of_mem_text (h item (by simp)) hc).1
      · obtain rfl : c = ',' := by simpa using hc
        rfl
      · exact ih (fun item hm => h item (by simp [hm])) hc

/-- The text behind the letter and the equals sign of a clause of items is theirs. -/
theorem clauseBody?_itemsText {items : List ClauseItem} {percents : Bool} {letters : List Char}
    {letter : Char} (hl : letter ∈ letters) (h : ∀ item ∈ items, item.wellFormed percents = true) :
    clauseBody? letters (letter :: '=' :: itemsText items) = some (itemsText items) := by
  have hb : isBlank '=' = false := by decide
  have ht : trimStart (itemsText items) = itemsText items := by
    cases hi : itemsText items with
    | nil => rfl
    | cons c cs =>
      have := isBlank_of_mem_itemsText h (c := c) (by simp [hi])
      simp [trimStart, this]
  have hs : trimStart ('=' :: itemsText items) = '=' :: itemsText items := by simp [trimStart, hb]
  simp [clauseBody?, hs, ht, hl]

theorem trimmed_clause {items : List ClauseItem} {percents : Bool} {letter : Char}
    (hl : isBlank letter = false) (h : ∀ item ∈ items, item.wellFormed percents = true) :
    trimmed (letter :: '=' :: itemsText items) = letter :: '=' :: itemsText items := by
  refine trimmed_of_forall fun c hc => ?_
  rcases List.mem_cons.1 hc with rfl | hc
  · exact hl
  · rcases List.mem_cons.1 hc with rfl | hc
    · decide
    · exact isBlank_of_mem_itemsText h hc

/-- The items of a clause for extra columns are read back. -/
theorem extraItems?_extraClause {items : List ClauseItem} (hne : items ≠ [])
    (h : ∀ item ∈ items, item.wellFormed false = true) :
    extraItems? (extraClause items) = some items := by
  rw [extraItems?, extraClause, String.toList_ofList, trimmed_clause (by decide) h,
    clauseBody?_itemsText (by simp) h]
  exact readItems?_itemsText hne h

/-- The items of a clause for groups are read back. -/
theorem groupItems?_groupClause {items : List ClauseItem} (hne : items ≠ [])
    (h : ∀ item ∈ items, item.wellFormed true = true) :
    groupItems? (groupClause items) = some items := by
  rw [groupItems?, groupClause, String.toList_ofList, trimmed_clause (by decide) h]
  rw [show ∀ cs, dropMinus ('s' :: cs) = 's' :: cs from fun _ => rfl,
    clauseBody?_itemsText (by simp) h]
  exact readItems?_itemsText hne h

/-! ## Lists -/

/-- The item that asks for what an extra column shows. -/
def Projection.item (direction : Direction) : Projection → ClauseItem
  | field name => ⟨direction, none, name, false⟩
  | count => ⟨direction, none, "N", false⟩
  | aggregate function name => ⟨direction, some function, name, false⟩

/-- The item that asks for an extra column. -/
def ExtraField.item (f : ExtraField) : ClauseItem := f.projection.item f.direction

/-- The clause that asks for the columns of a list. -/
def ExtraList.clause (l : ExtraList) : String := extraClause (l.fields.map ExtraField.item)

/-- The item that asks for a field to group by. -/
def GroupField.item (f : GroupField) : ClauseItem := ⟨f.direction, none, f.field, f.percent⟩

/-- The clause that asks for the groups of a list. -/
def GroupList.clause (l : GroupList) : String := groupClause (l.fields.map GroupField.item)

theorem groupItems?_clause {l : GroupList} (h : ∀ f ∈ l.fields, isName f.field.toList = true) :
    groupItems? l.clause = some (l.fields.map GroupField.item) := by
  refine groupItems?_groupClause (by simp [GroupList.fields]) fun item hi => ?_
  obtain ⟨f, hf, rfl⟩ := List.mem_map.1 hi
  simp [GroupField.item, ClauseItem.wellFormed, h f hf]

end GameLog
