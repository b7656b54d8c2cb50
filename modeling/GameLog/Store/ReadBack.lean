import GameLog.Store.Load

/-!
# Declarations read back

If all names are plain, a store reads from the text of declarations what they declare, and from a
list of columns their names.

Main statements:
* `declarationsOf_texts`: plain declarations are read back from their texts;
* `declareText_schemaText`: the text of a catalog with plain names declares its tables;
* `namesOf?_joinWith`: plain names are read back from their list;
* `columnsFor_of_isBareName`: fields with plain columns are put into these columns.
-/

namespace GameLog

open GameLog.Text GameLog.Store

/-! ## Plain declarations -/

/-- Whether a column has a plain name, and is a whole number if it numbers the rows. -/
def ColumnSpec.isPlain (c : ColumnSpec) : Bool :=
  isBareName c.name && (!c.primary || c.storage == .integer)

/-- Whether a text is a plain name where a value is expected. -/
def isColumnName (s : String) : Bool := isBareName s && !valueWords.contains (lower s)

/-- Whether all names of a declaration are plain, and no more than one column numbers the rows. -/
def Declaration.isPlain : Declaration → Bool
  | table name columns =>
    isBareName name && !columns.isEmpty && columns.all ColumnSpec.isPlain &&
      columns.countP (·.primary) ≤ 1
  | index name base columns =>
    isBareName name && isBareName base && !columns.isEmpty && columns.all isColumnName

/-! ## Parts -/

/-- The parts of a column in a declaration. -/
def ColumnSpec.lexemes (c : ColumnSpec) : List Lexeme :=
  [.word c.name, .word c.storage.word] ++
    if c.primary then [.word "PRIMARY", .word "KEY"] else []

/-- The words in front of a name that is declared. -/
def declaringWords (kind : String) : List String := ["CREATE", kind, "IF", "NOT", "EXISTS"]

/-- The parts of a list in brackets. -/
def listLexemes (lists : List (List Lexeme)) : List Lexeme :=
  .mark '(' :: List.intercalate [.mark ','] lists ++ [.mark ')']

/-- The parts of a declaration in front of its semicolon. -/
def Declaration.lexemes : Declaration → List Lexeme
  | table name columns =>
    (declaringWords "TABLE" ++ [name]).map .word ++ listLexemes (columns.map ColumnSpec.lexemes)
  | index name base columns =>
    (declaringWords "INDEX" ++ [name, "ON", base]).map .word ++
      listLexemes (columns.map fun c => [.word c])

theorem lexemes_text {s : String} (h : isBareWord s.toList = true) {rest : List Char}
    (hr : continuesWord rest = false) :
    Store.lexemes (s.toList ++ rest) = .word s :: Store.lexemes rest := by
  rw [lexemes_word h hr, String.ofList_toList]

theorem lexemes_text_blank {s : String} (h : isBareWord s.toList = true) {rest : List Char}
    (hr : rest.head? ≠ some '\x0b') :
    Store.lexemes (s.toList ++ ' ' :: rest) = .word s :: Store.lexemes rest := by
  rw [lexemes_text h (by rfl), lexemes_gap (by rfl) hr]

theorem isBareWord_of_isBareName {s : String} (h : isBareName s = true) : isBareWord s.toList = true := by
  simp only [isBareName, Bool.and_eq_true] at h
  exact h.1

theorem head_ne_of_isBareWord {cs : List Char} (h : isBareWord cs = true) (rest : List Char) :
    (cs ++ rest).head? ≠ some '\x0b' := by
  cases cs with
  | nil => simp [isBareWord] at h
  | cons c cs =>
    simp only [isBareWord, Bool.and_eq_true] at h
    intro e
    rw [List.cons_append, List.head?_cons] at e
    rw [Option.some.inj e] at h
    cases h.1

theorem isBareWord_storage (s : Storage) : isBareWord s.word.toList = true := by cases s <;> rfl

/-- The parts of a column are read from its text. -/
theorem ColumnSpec.lexemes_text {c : ColumnSpec} (h : isBareName c.name = true) {rest : List Char}
    (hr : continuesWord rest = false) :
    Store.lexemes (c.text.toList ++ rest) = c.lexemes ++ Store.lexemes rest := by
  have hs := head_ne_of_isBareWord (isBareWord_storage c.storage)
  unfold ColumnSpec.text ColumnSpec.lexemes
  cases c.primary with
  | false =>
    have : (c.name ++ " " ++ c.storage.word ++ "").toList ++ rest =
        c.name.toList ++ ' ' :: (c.storage.word.toList ++ rest) := by simp
    rw [if_neg (by simp), this, lexemes_text_blank (isBareWord_of_isBareName h) (hs rest),
      GameLog.lexemes_text (isBareWord_storage _) hr]
    simp
  | true =>
    have : (c.name ++ " " ++ c.storage.word ++ " PRIMARY KEY").toList ++ rest =
        c.name.toList ++ ' ' :: (c.storage.word.toList ++ ' ' ::
          ("PRIMARY".toList ++ ' ' :: ("KEY".toList ++ rest))) := by simp
    rw [if_pos rfl, this, lexemes_text_blank (isBareWord_of_isBareName h) (hs _),
      lexemes_text_blank (isBareWord_storage _) (by simp), lexemes_text_blank (by rfl) (by simp),
      GameLog.lexemes_text (by rfl) hr]
    simp

/-- Parts with separators between them are read from texts with separators between them. -/
theorem lexemes_joinWith {α : Type} (text : α → String) (parts : α → List Lexeme) (gap : String)
    (items : List α) (h : ∀ a ∈ items, ∀ rest, continuesWord rest = false →
      Store.lexemes ((text a).toList ++ rest) = parts a ++ Store.lexemes rest)
    (hg : ∀ a ∈ items, ∀ rest, continuesWord (gap.toList ++ rest) = false ∧
      Store.lexemes (gap.toList ++ ((text a).toList ++ rest)) =
        .mark ',' :: Store.lexemes ((text a).toList ++ rest)) {rest : List Char}
    (hr : continuesWord rest = false) :
    Store.lexemes ((joinWith gap (items.map text)).toList ++ rest) =
      List.intercalate [.mark ','] (items.map parts) ++ Store.lexemes rest := by
  rw [joinWith, String.toList_intercalate]
  induction items with
  | nil => simp
  | cons a items ih =>
    cases items with
    | nil => simpa using h a (by simp) rest hr
    | cons b items =>
      have hb := hg b (by simp)
      simp only [List.map_cons, List.intercalate_cons_cons, List.append_assoc] at ih ⊢
      have next : ∃ more, List.intercalate gap.toList
          ((text b).toList :: (items.map text).map String.toList) ++ rest =
            (text b).toList ++ more := by
        cases items with
        | nil => exact ⟨rest, by simp⟩
        | cons c items => exact ⟨_, by rw [List.map_cons, List.map_cons,
            List.intercalate_cons_cons, List.append_assoc, List.append_assoc]⟩
      obtain ⟨more, hmore⟩ := next
      rw [h a (by simp) _ (by rw [hmore]; exact (hb _).1), hmore, (hb more).2, ← hmore,
        ih (fun x hx => h x (by simp [hx])) (fun x hx => hg x (by simp [hx]))]
      rfl

theorem ColumnSpec.head_text_ne {c : ColumnSpec} (h : isBareName c.name = true) (rest : List Char) :
    (c.text.toList ++ rest).head? ≠ some '\x0b' := by
  have : c.text.toList ++ rest = c.name.toList ++ (" ".toList ++ (c.storage.word.toList ++
      ((if c.primary then " PRIMARY KEY" else "").toList ++ rest))) := by
    simp [ColumnSpec.text]
  rw [this]
  exact head_ne_of_isBareWord (isBareWord_of_isBareName h) _

/-- The parts of the list of a table are read from its text. -/
theorem lexemes_columns {columns : List ColumnSpec}
    (h : ∀ c ∈ columns, isBareName c.name = true) {rest : List Char}
    (hr : continuesWord rest = false) :
    Store.lexemes ((joinWith ",\n    " (columns.map ColumnSpec.text)).toList ++ rest) =
      List.intercalate [.mark ','] (columns.map ColumnSpec.lexemes) ++ Store.lexemes rest := by
  refine lexemes_joinWith _ _ _ _ (fun c hc rest hr => ColumnSpec.lexemes_text (h c hc) hr)
    (fun c hc rest => ⟨rfl, ?_⟩) hr
  have hn := ColumnSpec.head_text_ne (h c hc) rest
  have : (",\n    ".toList ++ (c.text.toList ++ rest)) =
      ',' :: '\n' :: ' ' :: ' ' :: ' ' :: ' ' :: (c.text.toList ++ rest) := rfl
  rw [this, lexemes_mark (by simp), lexemes_gap (by rfl) (by simp), lexemes_gap (by rfl) (by simp),
    lexemes_gap (by rfl) (by simp), lexemes_gap (by rfl) (by simp), lexemes_gap (by rfl) hn]

/-- Plain names are read from their list. -/
theorem lexemes_names {names : List String} (h : ∀ s ∈ names, isBareName s = true) {rest : List Char}
    (hr : continuesWord rest = false) :
    Store.lexemes ((joinWith ", " names).toList ++ rest) =
      List.intercalate [.mark ','] (names.map fun s => [.word s]) ++ Store.lexemes rest := by
  have read := lexemes_joinWith id (fun s => [.word s]) ", " names
    (fun s hs rest hr => lexemes_text (isBareWord_of_isBareName (h s hs)) hr)
    (fun s hs rest => ⟨rfl, ?_⟩) hr
  · rwa [List.map_id] at read
  · have split : ", ".toList ++ ((id s).toList ++ rest) = ',' :: ' ' :: (s.toList ++ rest) := rfl
    rw [split, lexemes_mark (by simp), lexemes_gap (by rfl)
      (head_ne_of_isBareWord (isBareWord_of_isBareName (h s hs)) rest)]
    rfl

/-- Words with a blank behind each are read one by one. -/
theorem lexemes_words {ws : List String} (h : ∀ w ∈ ws, isBareWord w.toList = true) {rest : List Char}
    (hr : rest.head? ≠ some '\x0b') :
    Store.lexemes (ws.flatMap (fun w => w.toList ++ [' ']) ++ rest) =
      ws.map .word ++ Store.lexemes rest := by
  induction ws with
  | nil => rfl
  | cons w ws ih =>
    have next : (ws.flatMap (fun w => w.toList ++ [' ']) ++ rest).head? ≠ some '\x0b' := by
      cases ws with
      | nil => simpa using hr
      | cons v ws =>
        rw [List.flatMap_cons, List.append_assoc, List.append_assoc]
        exact head_ne_of_isBareWord (h v (by simp)) _
    rw [List.flatMap_cons, List.append_assoc, List.append_assoc, List.singleton_append,
      lexemes_text_blank (h w (by simp)) next, ih fun v hv => h v (by simp [hv])]
    rfl

/-- The parts of a plain table are read from its text. -/
theorem Declaration.lexemes_table {name : String} {columns : List ColumnSpec}
    (h : (Declaration.table name columns).isPlain = true) (rest : List Char) :
    Store.lexemes ((Declaration.table name columns).text.toList ++ rest) =
      (Declaration.table name columns).lexemes ++ .mark ';' :: Store.lexemes rest := by
  simp only [isPlain, Bool.and_eq_true, List.all_eq_true, ColumnSpec.isPlain] at h
  obtain ⟨⟨⟨hname, hne⟩, hcolumns⟩, -⟩ := h
  have split : (Declaration.table name columns).text.toList ++ rest =
      (declaringWords "TABLE" ++ [name]).flatMap (fun w => w.toList ++ [' ']) ++
        '(' :: '\n' :: ' ' :: ' ' :: ' ' :: ' ' ::
          ((joinWith ",\n    " (columns.map ColumnSpec.text)).toList ++
            '\n' :: ')' :: ';' :: rest) := by
    change ("CREATE TABLE IF NOT EXISTS " ++ name ++ " (\n    " ++
      joinWith ",\n    " (columns.map ColumnSpec.text) ++ "\n);").toList ++ rest = _
    simp [declaringWords]
  have first : ((joinWith ",\n    " (columns.map ColumnSpec.text)).toList ++
      '\n' :: ')' :: ';' :: rest).head? ≠ some '\x0b' := by
    cases columns with
    | nil => nofun
    | cons c columns =>
      have hc := ColumnSpec.head_text_ne (hcolumns c (by simp)).1
      cases columns with
      | nil =>
        rw [joinWith, List.map_singleton, String.intercalate_singleton]
        exact hc _
      | cons d columns =>
        rw [joinWith, List.map_cons, List.map_cons, String.toList_intercalate, List.map_cons,
          List.map_cons, List.intercalate_cons_cons, List.append_assoc, List.append_assoc]
        exact hc _
  have words : ∀ w ∈ declaringWords "TABLE" ++ [name], isBareWord w.toList = true := by
    simp only [List.mem_append, declaringWords, List.mem_cons, List.not_mem_nil, or_false]
    rintro w ((rfl | rfl | rfl | rfl | rfl) | rfl)
    · rfl
    · rfl
    · rfl
    · rfl
    · rfl
    · exact isBareWord_of_isBareName hname
  rw [split, lexemes_words words (by simp), lexemes_mark (by simp), lexemes_gap (by rfl) (by simp),
    lexemes_gap (by rfl) (by simp), lexemes_gap (by rfl) (by simp), lexemes_gap (by rfl) (by simp),
    lexemes_gap (by rfl) first, lexemes_columns (fun c hc => (hcolumns c hc).1) (by rfl),
    lexemes_gap (by rfl) (by simp), lexemes_mark (by simp), lexemes_mark (by simp)]
  simp [Declaration.lexemes, listLexemes]

/-- The parts of a plain index are read from its text. -/
theorem Declaration.lexemes_index {name base : String} {columns : List String}
    (h : (Declaration.index name base columns).isPlain = true) (rest : List Char) :
    Store.lexemes ((Declaration.index name base columns).text.toList ++ rest) =
      (Declaration.index name base columns).lexemes ++ .mark ';' :: Store.lexemes rest := by
  simp only [isPlain, Bool.and_eq_true, List.all_eq_true, isColumnName] at h
  obtain ⟨⟨⟨hname, hbase⟩, -⟩, hcolumns⟩ := h
  have split : (Declaration.index name base columns).text.toList ++ rest =
      (declaringWords "INDEX" ++ [name, "ON", base]).flatMap (fun w => w.toList ++ [' ']) ++
        '(' :: ((joinWith ", " columns).toList ++ ')' :: ';' :: rest) := by
    change ("CREATE INDEX IF NOT EXISTS " ++ name ++ " ON " ++ base ++ " (" ++
      joinWith ", " columns ++ ");").toList ++ rest = _
    simp [declaringWords]
  have words : ∀ w ∈ declaringWords "INDEX" ++ [name, "ON", base], isBareWord w.toList = true := by
    simp only [List.mem_append, declaringWords, List.mem_cons, List.not_mem_nil, or_false]
    rintro w ((rfl | rfl | rfl | rfl | rfl) | rfl | rfl | rfl)
    · rfl
    · rfl
    · rfl
    · rfl
    · rfl
    · exact isBareWord_of_isBareName hname
    · rfl
    · exact isBareWord_of_isBareName hbase
  rw [split, lexemes_words words (by simp), lexemes_mark (by simp),
    lexemes_names (fun s hs => (hcolumns s hs).1) (by rfl), lexemes_mark (by simp),
    lexemes_mark (by simp)]
  simp [Declaration.lexemes, listLexemes]

theorem Declaration.lexemes_text {d : Declaration} (h : d.isPlain = true) (rest : List Char) :
    Store.lexemes (d.text.toList ++ rest) = d.lexemes ++ .mark ';' :: Store.lexemes rest := by
  cases d with
  | table => exact lexemes_table h rest
  | index => exact lexemes_index h rest

/-! ## Meanings -/

theorem key_not_mem {s : String} (h : isBareName s = true) (words : List String)
    (hw : words.all reservedWords.contains = true) : words.contains (lower s) = false := by
  simp only [isBareName, Bool.and_eq_true, Bool.not_eq_true'] at h
  cases hc : words.contains (lower s) with
  | false => rfl
  | true =>
    have := List.all_eq_true.1 hw (lower s) (by simpa using hc)
    rw [h.2] at this
    cases this

theorem name?_word {s : String} (h : isBareName s = true) : (Lexeme.word s).name? = some s := by
  simp only [isBareName, Bool.and_eq_true, Bool.not_eq_true'] at h
  rw [Lexeme.name?, h.2]
  rfl

/-- A column is read from its parts. -/
theorem ColumnSpec.ofPieces?_lexemes {c : ColumnSpec} (h : c.isPlain = true) :
    ofPieces? (c.lexemes.map .one) = some c := by
  rcases c with ⟨name, storage, primary⟩
  simp only [isPlain, Bool.and_eq_true, Bool.or_eq_true, Bool.not_eq_true', beq_iff_eq] at h
  have hn := name?_word h.1
  cases primary with
  | false =>
    cases storage <;>
    · simp only [lexemes, Storage.word, ofPieces?, List.map_cons, List.cons_append,
        List.nil_append, hn, Option.bind_eq_bind, Option.bind_some]
      rfl
  | true =>
    obtain rfl : storage = .integer := by simpa using h.2
    simp only [lexemes, Storage.word, ofPieces?, List.map_cons, List.cons_append,
      List.nil_append, hn, Option.bind_eq_bind, Option.bind_some]
    rfl

theorem mapM_map_of_forall {α β : Type} (write : α → β) (read? : β → Option α) {as : List α}
    (h : ∀ a ∈ as, read? (write a) = some a) : (as.map write).mapM read? = some as := by
  induction as with
  | nil => rfl
  | cons a as ih =>
    rw [List.map_cons, List.mapM_cons, h a (by simp), ih fun b hb => h b (by simp [hb])]
    rfl

theorem ColumnSpec.word_of_mem_lexemes {c : ColumnSpec} {l : Lexeme} (h : l ∈ c.lexemes) :
    ∃ w, l = .word w := by
  unfold lexemes at h
  split at h
  · simp only [List.cons_append, List.nil_append, List.mem_cons, List.not_mem_nil, or_false] at h
    rcases h with rfl | rfl | rfl | rfl <;> exact ⟨_, rfl⟩
  · simp only [List.append_nil, List.mem_cons, List.not_mem_nil, or_false] at h
    rcases h with rfl | rfl <;> exact ⟨_, rfl⟩

theorem isFlat_columns (columns : List ColumnSpec) :
    ∀ list ∈ columns.map ColumnSpec.lexemes, ∀ l ∈ list, l.isFlat = true ∧ l ≠ .mark ',' := by
  simp only [List.mem_map]
  rintro list ⟨c, -, rfl⟩ l hl
  obtain ⟨w, rfl⟩ := c.word_of_mem_lexemes hl
  exact ⟨rfl, nofun⟩

theorem isFlat_names (names : List String) :
    ∀ list ∈ names.map fun s => [Lexeme.word s], ∀ l ∈ list, l.isFlat = true ∧ l ≠ .mark ',' := by
  simp only [List.mem_map]
  rintro list ⟨s, -, rfl⟩ l hl
  obtain rfl := List.mem_singleton.1 hl
  exact ⟨rfl, nofun⟩

theorem isTableRule_lexemes {c : ColumnSpec} (h : isBareName c.name = true) :
    isTableRule (c.lexemes.map .one) = false :=
  key_not_mem h ["check", "constraint", "foreign", "primary", "unique"] (by decide)

theorem countP_lexemes {c : ColumnSpec} (h : isBareName c.name = true) :
    (c.lexemes.map Piece.one).countP (·.isKey ["primary"]) = if c.primary then 1 else 0 := by
  rcases c with ⟨name, storage, primary⟩
  have hn : (Piece.one (.word name)).isKey ["primary"] = false :=
    key_not_mem h ["primary"] (by decide)
  have hs : (Piece.one (.word storage.word)).isKey ["primary"] = false := by cases storage <;> rfl
  cases primary <;>
  · simp only [ColumnSpec.lexemes, List.map_cons, List.cons_append, List.nil_append,
      List.countP_cons, hn, hs]
    rfl

/-- The columns of a plain table are read from its items. -/
theorem columnsOf?_lexemes {columns : List ColumnSpec} (hne : columns ≠ [])
    (h : ∀ c ∈ columns, c.isPlain = true) (hp : columns.countP (·.primary) ≤ 1) :
    columnsOf? (columns.map fun c => c.lexemes.map .one) = some columns := by
  have hname : ∀ c ∈ columns, isBareName c.name = true := by
    intro c hc
    have := h c hc
    simp only [ColumnSpec.isPlain, Bool.and_eq_true] at this
    exact this.1
  have noRule : ∀ item ∈ columns.map (fun c => c.lexemes.map Piece.one),
      (!isTableRule item) = true := by
    simp only [List.mem_map]
    rintro item ⟨c, hc, rfl⟩
    rw [isTableRule_lexemes (hname c hc)]
    rfl
  have kept := takeWhile_of_forall noRule
  have dropped := dropWhile_of_forall noRule
  have keys : (columns.map fun c => c.lexemes.map Piece.one).flatten.countP
      (·.isKey ["primary"]) = columns.countP (·.primary) := by
    clear kept dropped noRule hne h hp
    induction columns with
    | nil => rfl
    | cons c columns ih =>
      rw [List.map_cons, List.flatten_cons, List.countP_append, countP_lexemes (hname c (by simp)),
        ih fun d hd => hname d (by simp [hd]), List.countP_cons, Nat.add_comm]
  have read := mapM_map_of_forall (fun c : ColumnSpec => c.lexemes.map Piece.one)
    ColumnSpec.ofPieces? fun c hc => ColumnSpec.ofPieces?_lexemes (h c hc)
  have few : ¬1 < columns.countP (·.primary) := by omega
  simp [columnsOf?, kept, dropped, keys, read, few, hne]

theorem pieces_words_list (ws : List String) {lists : List (List Lexeme)}
    (h : ∀ list ∈ lists, ∀ l ∈ list, l.isFlat = true ∧ l ≠ .mark ',') :
    pieces (ws.map .word ++ listLexemes lists) =
      some (ws.map (fun w => .one (.word w)) ++ [.group (List.intercalate [.mark ','] lists)]) := by
  have hw : ∀ l ∈ ws.map Lexeme.word, l.isFlat = true := by
    simp only [List.mem_map]
    rintro l ⟨w, -, rfl⟩
    rfl
  rw [pieces, piecesIn_append hw, listLexemes, piecesIn_group (isFlat_intercalate h), piecesIn,
    if_pos rfl]
  simp [Function.comp_def]

/-- A plain declaration is read from its parts. -/
theorem Declaration.ofLexemes?_lexemes {d : Declaration} (h : d.isPlain = true) :
    ofLexemes? d.lexemes = some d := by
  cases d with
  | table name columns =>
    simp only [isPlain, Bool.and_eq_true, List.all_eq_true, Bool.not_eq_true',
      List.isEmpty_eq_false_iff, decide_eq_true_eq] at h
    obtain ⟨⟨⟨hname, hne⟩, hcolumns⟩, hp⟩ := h
    have flat := isFlat_columns columns
    have hps := pieces_words_list (declaringWords "TABLE" ++ [name]) flat
    have hitems := items_intercalate (by simpa using hne) flat
    rw [List.map_map] at hitems
    have hread := columnsOf?_lexemes hne hcolumns hp
    have hbehind : behind (declaring "table")
        ((declaringWords "TABLE" ++ [name]).map (fun w => .one (.word w)) ++
          [.group (List.intercalate [.mark ','] (columns.map ColumnSpec.lexemes))]) =
        some [.one (.word name),
          .group (List.intercalate [.mark ','] (columns.map ColumnSpec.lexemes))] := rfl
    rw [ofLexemes?, lexemes, hps]
    simp only [Option.bind_eq_bind, Option.bind_some, hbehind, name?_word hname, hitems]
    exact (congrArg (·.bind fun c => some (Declaration.table name c)) hread).trans rfl
  | index name base columns =>
    simp only [isPlain, Bool.and_eq_true, List.all_eq_true, Bool.not_eq_true',
      List.isEmpty_eq_false_iff, isColumnName] at h
    obtain ⟨⟨⟨hname, hbase⟩, hne⟩, hcolumns⟩ := h
    have flat := isFlat_names columns
    have hps := pieces_words_list (declaringWords "INDEX" ++ [name, "ON", base]) flat
    have hitems := items_intercalate (by simpa using hne) flat
    rw [List.map_map] at hitems
    have hread : (columns.map ((fun list => list.map Piece.one) ∘ fun c => [Lexeme.word c])).mapM
        columnNameOf? = some columns := by
      refine mapM_map_of_forall ((fun list => list.map Piece.one) ∘ fun c => [.word c]) _
        fun c hc => ?_
      have hv : (Lexeme.word c).isKey valueWords = false := (hcolumns c hc).2
      change (Lexeme.word c).columnName? = some c
      rw [Lexeme.columnName?, hv, if_neg (by simp), name?_word (hcolumns c hc).1]
      nofun
    have htable : behind (declaring "table")
        ((declaringWords "INDEX" ++ [name, "ON", base]).map (fun w => .one (.word w)) ++
          [.group (List.intercalate [.mark ','] (columns.map fun c => [.word c]))]) = none := rfl
    have hbehind : behind (declaring "index")
        ((declaringWords "INDEX" ++ [name, "ON", base]).map (fun w => .one (.word w)) ++
          [.group (List.intercalate [.mark ','] (columns.map fun c => [.word c]))]) =
        some [.one (.word name), .one (.word "ON"), .one (.word base),
          .group (List.intercalate [.mark ','] (columns.map fun c => [.word c]))] := rfl
    have hon : (Lexeme.word "ON").isKey ["on"] = true := rfl
    rw [ofLexemes?, lexemes, hps]
    simp only [Option.bind_eq_bind, Option.bind_some, htable, hbehind, hon, if_true,
      name?_word hname, name?_word hbase, hitems]
    exact (congrArg (·.bind fun c => some (Declaration.index name base c)) hread).trans rfl

/-! ## Texts of declarations -/

/-- Whether no character ends a text before its end. -/
def isReadable (cs : List Char) : Bool := cs.all (· != '\x00')

theorem readable_eq {text : String} (h : isReadable text.toList = true) :
    readable text = text.toList :=
  takeWhile_of_forall (List.all_eq_true.1 h)

theorem isReadable_append (a b : List Char) :
    isReadable (a ++ b) = (isReadable a && isReadable b) := List.all_append

/-- A name does not end a text. -/
theorem isReadable_of_isBareName {s : String} (h : isBareName s = true) : isReadable s.toList = true := by
  have hw := isBareWord_of_isBareName h
  rw [isReadable, List.all_eq_true]
  intro d hd
  rw [bne_iff_ne]
  rintro rfl
  cases hs : s.toList with
  | nil => rw [hs] at hd; cases hd
  | cons c cs =>
    rw [hs] at hw hd
    simp only [isBareWord, Bool.and_eq_true, List.all_eq_true] at hw
    rcases List.mem_cons.1 hd with hd | hd
    · rw [← hd] at hw
      cases hw.1
    · cases hw.2 _ hd

theorem isReadable_joinWith {gap : String} {texts : List String}
    (hg : isReadable gap.toList = true) (h : ∀ s ∈ texts, isReadable s.toList = true) :
    isReadable (joinWith gap texts).toList = true := by
  simp only [isReadable, List.all_eq_true] at *
  rw [joinWith, String.toList_intercalate]
  refine forall_intercalate hg ?_
  simp only [List.mem_map]
  rintro list ⟨s, hs, rfl⟩
  exact h s hs

/-- The text of a plain declaration is read as a whole. -/
theorem Declaration.isReadable_text {d : Declaration} (h : d.isPlain = true) :
    isReadable d.text.toList = true := by
  cases d with
  | table name columns =>
    simp only [isPlain, Bool.and_eq_true, List.all_eq_true, ColumnSpec.isPlain] at h
    obtain ⟨⟨⟨hname, -⟩, hcolumns⟩, -⟩ := h
    change isReadable ("CREATE TABLE IF NOT EXISTS " ++ name ++ " (\n    " ++
      joinWith ",\n    " (columns.map ColumnSpec.text) ++ "\n);").toList = true
    have inner : isReadable (joinWith ",\n    " (columns.map ColumnSpec.text)).toList = true := by
      refine isReadable_joinWith (by rfl) ?_
      simp only [List.mem_map]
      rintro s ⟨c, hc, rfl⟩
      have hn := isReadable_of_isBareName (hcolumns c hc).1
      have hs : isReadable c.storage.word.toList = true := by cases c.storage <;> rfl
      have hp : isReadable (if c.primary then " PRIMARY KEY" else "").toList = true := by
        cases c.primary <;> rfl
      rw [ColumnSpec.text, String.toList_append, String.toList_append, String.toList_append,
        isReadable_append, isReadable_append, isReadable_append, hn, hs, hp]
      rfl
    rw [String.toList_append, String.toList_append, String.toList_append, String.toList_append,
      isReadable_append, isReadable_append, isReadable_append, isReadable_append, inner,
      isReadable_of_isBareName hname]
    rfl
  | index name base columns =>
    simp only [isPlain, Bool.and_eq_true, List.all_eq_true, isColumnName] at h
    obtain ⟨⟨⟨hname, hbase⟩, -⟩, hcolumns⟩ := h
    change isReadable ("CREATE INDEX IF NOT EXISTS " ++ name ++ " ON " ++ base ++ " (" ++
      joinWith ", " columns ++ ");").toList = true
    have inner : isReadable (joinWith ", " columns).toList = true :=
      isReadable_joinWith (by rfl) fun c hc => isReadable_of_isBareName (hcolumns c hc).1
    rw [String.toList_append, String.toList_append, String.toList_append, String.toList_append,
      String.toList_append, String.toList_append, isReadable_append, isReadable_append,
      isReadable_append, isReadable_append, isReadable_append, isReadable_append, inner,
      isReadable_of_isBareName hname, isReadable_of_isBareName hbase]
    rfl

/-- No part of a declaration is a semicolon. -/
theorem Declaration.ne_semicolon (d : Declaration) :
    ∀ l ∈ d.lexemes, (l == Lexeme.mark ';') = false := by
  have words (ws : List String) : ∀ l ∈ ws.map Lexeme.word, (l == Lexeme.mark ';') = false := by
    simp only [List.mem_map]
    rintro l ⟨w, -, rfl⟩
    rfl
  have listed {lists : List (List Lexeme)} (h : ∀ list ∈ lists, ∀ l ∈ list, ∃ w, l = .word w) :
      ∀ l ∈ listLexemes lists, (l == Lexeme.mark ';') = false := by
    intro l hl
    rw [listLexemes, List.cons_append, List.mem_cons, List.mem_append, List.mem_singleton] at hl
    rcases hl with rfl | hl | rfl
    · rfl
    · refine forall_intercalate (p := fun l => (l == Lexeme.mark ';') = false) ?_ ?_ l hl
      · intro l hl
        obtain rfl := List.mem_singleton.1 hl
        rfl
      · intro list hlist l hl
        obtain ⟨w, rfl⟩ := h list hlist l hl
        rfl
    · rfl
  intro l hl
  cases d with
  | table name columns =>
    rcases List.mem_append.1 hl with hl | hl
    · exact words (declaringWords "TABLE" ++ [name]) l hl
    · refine listed ?_ l hl
      simp only [List.mem_map]
      rintro list ⟨c, -, rfl⟩ l hl
      exact c.word_of_mem_lexemes hl
  | index name base columns =>
    rcases List.mem_append.1 hl with hl | hl
    · exact words (declaringWords "INDEX" ++ [name, "ON", base]) l hl
    · refine listed ?_ l hl
      simp only [List.mem_map]
      rintro list ⟨c, -, rfl⟩ l hl
      exact ⟨c, List.mem_singleton.1 hl⟩

/-- The text of a declaration starts with a letter. -/
theorem Declaration.head_text_ne (d : Declaration) (rest : List Char) :
    (d.text.toList ++ rest).head? ≠ some '\x0b' := by
  have : ∃ more, d.text.toList ++ rest = 'C' :: more := by
    cases d with
    | table name columns =>
      change ∃ more, ("CREATE TABLE IF NOT EXISTS " ++ name ++ " (\n    " ++
        joinWith ",\n    " (columns.map ColumnSpec.text) ++ "\n);").toList ++ rest = _
      simp
    | index name base columns =>
      change ∃ more, ("CREATE INDEX IF NOT EXISTS " ++ name ++ " ON " ++ base ++ " (" ++
        joinWith ", " columns ++ ");").toList ++ rest = _
      simp
  obtain ⟨more, h⟩ := this
  rw [h]
  nofun

/-- The parts of plain declarations are read from their texts. -/
theorem lexemes_texts {ds : List Declaration} (h : ∀ d ∈ ds, d.isPlain = true) :
    Store.lexemes (joinWith "\n" (ds.map Declaration.text)).toList =
      ds.flatMap fun d => d.lexemes ++ [.mark ';'] := by
  rw [joinWith, String.toList_intercalate]
  induction ds with
  | nil => simp [Store.lexemes]
  | cons d ds ih =>
    have hd := Declaration.lexemes_text (h d (by simp))
    have nothing : Store.lexemes [] = [] := by rw [Store.lexemes]
    cases ds with
    | nil =>
      have := hd []
      rw [List.append_nil, nothing] at this
      simpa using this
    | cons e ds =>
      have next : ∃ more, List.intercalate "\n".toList (((e :: ds).map Declaration.text).map
          String.toList) = e.text.toList ++ more := by
        cases ds with
        | nil => exact ⟨[], by simp⟩
        | cons f ds => exact ⟨_, by rw [List.map_cons, List.map_cons, List.map_cons, List.map_cons,
            List.intercalate_cons_cons, List.append_assoc]⟩
      obtain ⟨more, hmore⟩ := next
      rw [List.map_cons, List.map_cons] at hmore
      rw [List.map_cons, List.map_cons, List.map_cons, List.map_cons, List.intercalate_cons_cons,
        List.append_assoc, hd, hmore]
      have gap : "\n".toList ++ (e.text.toList ++ more) = '\n' :: (e.text.toList ++ more) := rfl
      rw [gap, lexemes_gap (by rfl) (e.head_text_ne more), ← hmore, List.flatMap_cons,
        List.append_assoc, List.singleton_append]
      have := ih fun x hx => h x (by simp [hx])
      rw [List.map_cons, List.map_cons] at this
      rw [this]

/-- Plain declarations are read back from their texts. -/
theorem declarationsOf_texts {ds : List Declaration} (h : ∀ d ∈ ds, d.isPlain = true) :
    declarationsOf (joinWith "\n" (ds.map Declaration.text)) = (ds, true) := by
  have whole : isReadable (joinWith "\n" (ds.map Declaration.text)).toList = true := by
    refine isReadable_joinWith (by rfl) ?_
    simp only [List.mem_map]
    rintro s ⟨d, hd, rfl⟩
    exact Declaration.isReadable_text (h d hd)
  rw [declarationsOf, readable_eq whole, lexemes_texts h]
  clear whole
  induction ds with
  | nil => rfl
  | cons d ds ih =>
    rw [List.flatMap_cons, List.append_assoc, List.singleton_append,
      List.splitOnP_append_cons_of_forall_mem d.ne_semicolon _ (by rfl)]
    have hne : d.lexemes.isEmpty = false := by cases d <;> rfl
    rw [readDeclarations, hne, Declaration.ofLexemes?_lexemes (h d (by simp)),
      ih fun e he => h e (by simp [he])]
    rfl

/-- The text of a catalog with plain names declares its tables and indexes. -/
theorem declareText_schemaText {c : Catalog} (h : ∀ d ∈ c.declarations, d.isPlain = true)
    (s : Store) : s.declareText c.schemaText = s.declareAll c.declarations := by
  rw [Store.declareText, Catalog.schemaText, declarationsOf_texts h]
  change ((s.declareAll c.declarations).1.or none, (s.declareAll c.declarations).2) = _
  rw [Option.or_none]

/-! ## Lists of names -/

/-- Plain names are read back from their list. -/
theorem namesOf?_joinWith {names : List String} (hn : names ≠ [])
    (h : ∀ s ∈ names, isBareName s = true) : namesOf? (joinWith ", " names) = some names := by
  have whole : isReadable ("(" ++ joinWith ", " names ++ ")").toList = true := by
    rw [String.toList_append, String.toList_append, isReadable_append, isReadable_append,
      isReadable_joinWith (by rfl) fun s hs => isReadable_of_isBareName (h s hs)]
    rfl
  have parts : Store.lexemes ("(" ++ joinWith ", " names ++ ")").toList =
      listLexemes (names.map fun s => [.word s]) := by
    have split : ("(" ++ joinWith ", " names ++ ")").toList =
        '(' :: ((joinWith ", " names).toList ++ [')']) := by simp
    have nothing : Store.lexemes [] = [] := by rw [Store.lexemes]
    rw [split, lexemes_mark (by simp), lexemes_names h (by rfl), lexemes_mark (by simp), nothing]
    rfl
  have flat := isFlat_names names
  have read := pieces_words_list [] flat
  rw [List.map_nil, List.nil_append, List.map_nil, List.nil_append] at read
  have listed := items_intercalate (by simpa using hn) flat
  rw [List.map_map] at listed
  have named : (names.map ((fun list => list.map Piece.one) ∘ fun s => [Lexeme.word s])).mapM
      nameOf? = some names :=
    mapM_map_of_forall ((fun list => list.map Piece.one) ∘ fun s => [.word s]) _
      fun s hs => name?_word (h s hs)
  rw [namesOf?, readable_eq whole, parts, read]
  change (items _).bind _ = _
  rw [listed]
  exact named

theorem nameOfText?_of_isBareName {s : String} (h : isBareName s = true) : nameOfText? s = some s := by
  have := namesOf?_joinWith (List.cons_ne_nil s []) (by simpa using h)
  rw [joinWith, String.intercalate_singleton] at this
  rw [nameOfText?, this]

end GameLog
