import GameLog.Proofs.Statement.ClauseText

/-!
# Conditions with any plain parts

The columns and fixed texts of a condition stand in its text as they are. Legible ones are read back one
by one. Here nothing is asked of them but that they are plain (`IsPlain`): they have no question marks
and no parentheses, and none of their words is a joint. Then the text falls into atoms with joints and
parentheses between them, and an atom takes a value for each of its question marks.

What an atom is true of is not known. The text says of the atoms what the condition does, whichever
are true.

Main statements:
* `readAtoms?_text`: the text of a plain condition is read as what the condition means;
* `count_text`: it has as many question marks as there are values;
* `plain_text_keeps_meaning`: both, for conditions without empty alternatives by their plain meaning.
-/

namespace GameLog

open GameLog.Text

/-! ## The plain meaning of a condition -/

namespace Condition

mutual

/-- Whether a condition is true: "and" asks for all parts, "or" for one of them, and without any parts
nothing is asked. -/
def isTrue (a : Assignment) : Condition → Bool
  | joined .and parts => allTrue a parts
  | joined .or parts => parts.isEmpty || anyTrue a parts
  | compare c => a.comparison c
  | fixed text => a.fixed text

/-- Whether all conditions of a list are true. -/
def allTrue (a : Assignment) : List Condition → Bool
  | [] => true
  | part :: parts => part.isTrue a && allTrue a parts

/-- Whether a condition of a list is true. -/
def anyTrue (a : Assignment) : List Condition → Bool
  | [] => false
  | part :: parts => part.isTrue a || anyTrue a parts

end

mutual

/-- Whether each alternative anywhere in a condition says something. -/
def isFilled : Condition → Bool
  | joined .and parts => areFilled parts
  | joined .or parts => parts.all (!·.isEmpty) && areFilled parts
  | compare _ => true
  | fixed _ => true

/-- Whether this is so in all conditions of a list. -/
def areFilled : List Condition → Bool
  | [] => true
  | part :: parts => part.isFilled && areFilled parts

end

mutual

/-- **A condition without empty alternatives holds exactly if it is true.** -/
theorem holds_eq_isTrue (a : Assignment) : (c : Condition) → c.isFilled = true →
    c.holds a = c.isTrue a
  | joined .and parts, h => by
    rw [holds, isTrue, allHold_eq_allTrue a parts (by simpa [isFilled] using h)]
  | joined .or parts, h => by
    simp only [isFilled, Bool.and_eq_true] at h
    have hempty : areEmpty parts = parts.isEmpty := by
      cases parts with
      | nil => rfl
      | cons part parts =>
        have hpart : part.isEmpty = false := by simpa using List.all_eq_true.mp h.1 part (by simp)
        rw [areEmpty, hpart]
        rfl
    rw [holds, isTrue, hempty, anyHolds_eq_anyTrue a parts h.1 h.2]
  | compare _, _ => rfl
  | fixed _, _ => rfl

theorem allHold_eq_allTrue (a : Assignment) : (parts : List Condition) → areFilled parts = true →
    allHold a parts = allTrue a parts
  | [], _ => rfl
  | part :: parts, h => by
    simp only [areFilled, Bool.and_eq_true] at h
    rw [allHold, allTrue, ← holds_eq_isTrue a part h.1, allHold_eq_allTrue a parts h.2]
    cases hpart : part.isEmpty with
    | false => rfl
    | true => rw [holds_of_isEmpty a hpart, Bool.true_or]

theorem anyHolds_eq_anyTrue (a : Assignment) : (parts : List Condition) →
    (parts.all fun part => !part.isEmpty) = true → areFilled parts = true →
    anyHolds a parts = anyTrue a parts
  | [], _, _ => rfl
  | part :: parts, hne, h => by
    simp only [List.all_cons, Bool.and_eq_true] at hne
    simp only [areFilled, Bool.and_eq_true] at h
    rw [anyHolds, anyTrue, ← holds_eq_isTrue a part h.1, anyHolds_eq_anyTrue a parts hne.2 h.2,
      hne.1, Bool.true_and]

end

end Condition

/-! ## Plain texts -/

/-- The joint that a word is, in any letter case. -/
def Joint.ofWord? (word : String) : Option Joint :=
  [Joint.and, .or].find? fun joint => sameLetters joint.text word

/-- **A text is plain**: there are no parentheses and no question marks in it, and no word of it is a
joint. -/
structure IsPlain (text : String) : Prop where
  marks : ∀ c ∈ textMarks, c ∉ text.toList
  words : ∀ word ∈ wordsOf text.toList, Joint.ofWord? word = none

instance (text : String) : Decidable (IsPlain text) :=
  decidable_of_iff ((textMarks.all fun c => !text.toList.contains c) = true ∧
    ∀ word ∈ wordsOf text.toList, Joint.ofWord? word = none)
    ⟨fun h => ⟨by simpa using h.1, h.2⟩, fun h => ⟨by simpa using h.marks, h.words⟩⟩

theorem mem_of_mark_mem_wordsOf {c : Char} {text : List Char}
    (h : String.ofList [c] ∈ wordsOf text) : c ∈ text := by
  have hmem : c ∈ (wordsOf text).flatMap String.toList :=
    List.mem_flatMap.mpr ⟨_, h, by simp⟩
  exact (sublist_wordsBehind [] text).mem hmem

theorem IsPlain.ne_mark {text : String} (h : IsPlain text) {c : Char} (hc : c ∈ textMarks)
    {word : String} (hword : word ∈ wordsOf text.toList) : word ≠ String.ofList [c] := by
  rintro rfl
  exact h.marks c hc (mem_of_mark_mem_wordsOf hword)

/-- What is true of comparisons and fixed texts, if it is known which words are true with which values. -/
def Assignment.ofAtoms (truth : List String → List Cell → Bool) : Assignment where
  comparison c := truth (wordsOf c.text.toList) [c.value]
  fixed text := truth (wordsOf text.toList) []

namespace Condition

/-! ## Atoms -/

/-- A part of a text: an atom by its words, or what stands around atoms. -/
inductive Segment
  | atom (words : List String)
  | joint (joint : Joint)
  | opening
  | closing
deriving DecidableEq, Repr

/-- What a word is that is no part of an atom. -/
def Segment.ofWord? (word : String) : Option Segment :=
  if word = "(" then some .opening
  else if word = ")" then some .closing
  else (Joint.ofWord? word).map .joint

/-- The atom of some words, if there are any. -/
def Segment.ofAtom (words : List String) : List Segment := if words.isEmpty then [] else [.atom words]

/-- The segments of words behind the first words of an atom. -/
def segmentsBehind (atom : List String) : List String → List Segment
  | [] => Segment.ofAtom atom
  | word :: rest =>
    match Segment.ofWord? word with
    | some segment => Segment.ofAtom atom ++ segment :: segmentsBehind [] rest
    | none => segmentsBehind (atom ++ [word]) rest

/-- The word that a value is bound to. -/
def valueWord : String := "?"

/-- What segments behind the levels read so far say, innermost first. An atom takes the values of its
question marks. -/
def readSegmentsIn (truth : List String → List Cell → Bool) (l : ReadLevel)
    (outer : List ReadLevel) : List Segment → List Cell → Option Bool
  | [], vs => if vs.isEmpty && outer.isEmpty then l.value else none
  | .atom words :: rest, vs =>
    let marks := words.count valueWord
    if vs.length < marks then none
    else (l.operand (truth words (vs.take marks))).bind fun l =>
      readSegmentsIn truth l outer rest (vs.drop marks)
  | .joint j :: rest, vs => (l.joint j).bind fun l => readSegmentsIn truth l outer rest vs
  | .opening :: rest, vs => if l.due then readSegmentsIn truth .start (l :: outer) rest vs else none
  | .closing :: rest, vs =>
    match outer with
    | [] => none
    | level :: outer =>
      (l.value.bind level.operand).bind fun l => readSegmentsIn truth l outer rest vs

/-- **What a text says of its atoms** with values for its question marks in their order, where an atom is
its words with the values bound to them. A text without words is no restriction. -/
def readAtoms? (truth : List String → List Cell → Bool) (text : String) (values : List Cell) :
    Option Bool :=
  let segments := segmentsBehind [] (wordsOf text.toList)
  if segments.isEmpty && values.isEmpty then some true
  else readSegmentsIn truth .start [] segments values

/-! ## The segments of a condition -/

/-- The segment that a token is. -/
def Token.segment : Token → Segment
  | joint j => .joint j
  | opening => .opening
  | closing => .closing
  | t => .atom (wordsOf t.text.toList)

/-- **A token is plain** if its column or its fixed text is, and there is a word in a fixed text. -/
def Token.Plain (t : Token) : Prop :=
  t.All (fun column => IsPlain column.text) fun text => IsPlain text ∧ wordsOf text.toList ≠ []

theorem ofWord?_of_plain {text : String} (h : IsPlain text) :
    ∀ word ∈ wordsOf text.toList, Segment.ofWord? word = none := by
  intro word hword
  have hopen := h.ne_mark (c := '(') (by decide) hword
  have hclose := h.ne_mark (c := ')') (by decide) hword
  rw [Segment.ofWord?, if_neg hopen, if_neg hclose, h.words word hword]
  rfl

theorem count_valueWord_of_plain {text : String} (h : IsPlain text) :
    (wordsOf text.toList).count valueWord = 0 :=
  List.count_eq_zero.mpr fun hword => h.ne_mark (c := '?') (by decide) hword rfl

theorem segmentsBehind_append {words : List String}
    (h : ∀ word ∈ words, Segment.ofWord? word = none) (atom rest : List String) :
    segmentsBehind atom (words ++ rest) = segmentsBehind (atom ++ words) rest := by
  induction words generalizing atom with
  | nil => rw [List.nil_append, List.append_nil]
  | cons word words ih =>
    obtain ⟨hword, hwords⟩ := List.forall_mem_cons.mp h
    rw [List.cons_append, segmentsBehind, hword]
    dsimp only
    rw [ih hwords, List.append_assoc]
    rfl

theorem segmentsBehind_word {word : String} {segment : Segment}
    (h : Segment.ofWord? word = some segment) (atom rest : List String) :
    segmentsBehind atom (word :: rest) =
      Segment.ofAtom atom ++ segment :: segmentsBehind [] rest := by
  rw [segmentsBehind, h]

theorem Token.exists_word {t : Token} (h : t.isAtom = false) :
    ∃ word, wordsOf t.text.toList = [word] ∧ Segment.ofWord? word = some t.segment := by
  cases t with
  | comparison column op => cases h
  | fixed text => cases h
  | joint j => exact ⟨j.text, by cases j <;> decide, by cases j <;> decide⟩
  | opening => exact ⟨"(", rfl, rfl⟩
  | closing => exact ⟨")", rfl, rfl⟩

theorem Token.Plain.ofWord? {t : Token} (h : t.Plain) (hatom : t.isAtom = true) :
    ∀ word ∈ wordsOf t.text.toList, Segment.ofWord? word = none := by
  cases t with
  | comparison column op =>
    have hplain : IsPlain column.text := h
    rw [wordsOf_comparison, List.forall_mem_append]
    exact ⟨ofWord?_of_plain hplain, by cases op <;> decide⟩
  | fixed text => exact ofWord?_of_plain h.1
  | joint j => cases hatom
  | opening => cases hatom
  | closing => cases hatom

theorem Token.Plain.ofAtom {t : Token} (h : t.Plain) (hatom : t.isAtom = true) :
    Segment.ofAtom (wordsOf t.text.toList) = [t.segment] := by
  cases t with
  | comparison column op =>
    have hne : (wordsOf (Token.comparison column op).text.toList).isEmpty = false := by
      rw [wordsOf_comparison]
      simp
    rw [Segment.ofAtom, hne]
    rfl
  | fixed text =>
    have hne : (wordsOf text.toList).isEmpty = false := by simpa using h.2
    exact if_neg (by simpa [Token.text] using hne)
  | joint j => cases hatom
  | opening => cases hatom
  | closing => cases hatom

/-- An atom ends where the next token does. -/
theorem segmentsBehind_flush {t : Token} {ts : List Token} (h : (t :: ts).IsChain Token.Apart)
    (hatom : t.isAtom = true) (atom : List String) :
    segmentsBehind atom (ts.flatMap fun t => wordsOf t.text.toList) =
      Segment.ofAtom atom ++ segmentsBehind [] (ts.flatMap fun t => wordsOf t.text.toList) := by
  cases ts with
  | nil => exact (List.append_nil _).symm
  | cons next ts =>
    have hend : next.isEnd = true := (List.isChain_cons_cons.mp h).1 hatom
    have hnext : next.isAtom = false := by cases next <;> trivial
    obtain ⟨word, hword, hsegment⟩ := Token.exists_word hnext
    rw [List.flatMap_cons, hword, List.singleton_append, segmentsBehind_word hsegment,
      segmentsBehind_word hsegment]
    rfl

/-- **The words of plain tokens are grouped as the tokens**, if these are apart. -/
theorem segments_tokens {ts : List Token} (h : ∀ t ∈ ts, t.Plain) (hs : ts.IsChain Token.Apart) :
    segmentsBehind [] (ts.flatMap fun t => wordsOf t.text.toList) = ts.map Token.segment := by
  induction ts with
  | nil => rfl
  | cons t ts ih =>
    obtain ⟨ht, hts⟩ := List.forall_mem_cons.mp h
    have hrest := ih hts (List.isChain_cons.mp hs).2
    rw [List.flatMap_cons, List.map_cons, ← hrest]
    cases hatom : t.isAtom with
    | false =>
      obtain ⟨word, hword, hsegment⟩ := Token.exists_word hatom
      rw [hword, List.singleton_append, segmentsBehind_word hsegment]
      rfl
    | true =>
      rw [segmentsBehind_append (ht.ofWord? hatom), List.nil_append,
        segmentsBehind_flush hs hatom, ht.ofAtom hatom]
      rfl

/-! ## Segments are read as their tokens -/

/-- Whether a value is bound to a token. -/
def Token.takesValue : Token → Bool
  | comparison _ _ => true
  | _ => false

theorem Token.Plain.count_valueWord {column : Column} {op : Comparator}
    (h : (Token.comparison column op).Plain) :
    (wordsOf (Token.comparison column op).text.toList).count valueWord = 1 := by
  have hop : (op.words ++ ["?"]).count valueWord = 1 := by cases op <;> decide
  rw [wordsOf_comparison, List.count_append, count_valueWord_of_plain h, hop]

/-- **The segments of plain tokens are read as the tokens.** -/
theorem readSegmentsIn_map (truth : List String → List Cell → Bool) {ts : List Token}
    (h : ∀ t ∈ ts, t.Plain) (l : ReadLevel) (outer : List ReadLevel) (vs : List Cell) :
    readSegmentsIn truth l outer (ts.map Token.segment) vs =
      readTokensIn (.ofAtoms truth) l outer ts vs := by
  induction ts generalizing l outer vs with
  | nil => cases vs <;> simp [readSegmentsIn, readTokensIn]
  | cons t ts ih =>
    obtain ⟨ht, hts⟩ := List.forall_mem_cons.mp h
    rw [List.map_cons]
    cases t with
    | comparison column op =>
      simp only [Token.segment, readSegmentsIn, ht.count_valueWord]
      cases vs with
      | nil => simp [readTokensIn]
      | cons v vs =>
        rw [if_neg (by simp), readTokensIn]
        exact congrArg _ (funext fun l => ih hts l outer vs)
    | fixed text =>
      have hcount : (wordsOf (Token.fixed text).text.toList).count valueWord = 0 :=
        count_valueWord_of_plain ht.1
      simp only [Token.segment, readSegmentsIn, hcount]
      rw [if_neg (Nat.not_lt_zero _), readTokensIn]
      exact congrArg _ (funext fun l => ih hts l outer vs)
    | joint j =>
      rw [Token.segment, readSegmentsIn, readTokensIn]
      exact congrArg _ (funext fun l => ih hts l outer vs)
    | opening =>
      rw [Token.segment, readSegmentsIn, readTokensIn, ih hts]
    | closing =>
      rw [Token.segment]
      cases outer with
      | nil => rfl
      | cons level outer =>
        rw [readSegmentsIn, readTokensIn]
        exact congrArg _ (funext fun l => ih hts l outer vs)

/-- Tokens that are read take all the values. -/
theorem countP_takesValue {a : Assignment} {ts : List Token} {l : ReadLevel}
    {outer : List ReadLevel} {vs : List Cell} {b : Bool}
    (h : readTokensIn a l outer ts vs = some b) : ts.countP Token.takesValue = vs.length := by
  induction ts generalizing l outer vs with
  | nil =>
    cases vs with
    | nil => rfl
    | cons v vs => simp [readTokensIn] at h
  | cons t ts ih =>
    cases t with
    | comparison column op =>
      cases vs with
      | nil => simp [readTokensIn] at h
      | cons v vs =>
        rw [readTokensIn, Option.bind_eq_some_iff] at h
        obtain ⟨l, -, hrest⟩ := h
        rw [List.countP_cons_of_pos rfl, ih hrest, List.length_cons]
    | fixed text =>
      rw [readTokensIn, Option.bind_eq_some_iff] at h
      obtain ⟨l, -, hrest⟩ := h
      exact (List.countP_cons_of_neg Bool.false_ne_true).trans (ih hrest)
    | joint j =>
      rw [readTokensIn, Option.bind_eq_some_iff] at h
      obtain ⟨l, -, hrest⟩ := h
      exact (List.countP_cons_of_neg Bool.false_ne_true).trans (ih hrest)
    | opening =>
      rw [readTokensIn] at h
      split at h
      · exact (List.countP_cons_of_neg Bool.false_ne_true).trans (ih h)
      · cases h
    | closing =>
      cases outer with
      | nil => simp [readTokensIn] at h
      | cons level outer =>
        rw [readTokensIn] at h
        obtain ⟨l, -, hrest⟩ := Option.bind_eq_some_iff.mp h
        exact (List.countP_cons_of_neg Bool.false_ne_true).trans (ih hrest)

/-! ## Plain conditions -/

/-- **A condition is plain**: its columns and its fixed texts are, and there is a word in each fixed
text. -/
structure Plain (c : Condition) : Prop where
  columns : ∀ comparison ∈ c.comparisons, IsPlain comparison.column.text
  texts : ∀ text ∈ c.fixedTexts, IsPlain text ∧ wordsOf text.toList ≠ []

instance (c : Condition) : Decidable c.Plain :=
  decidable_of_iff ((∀ comparison ∈ c.comparisons, IsPlain comparison.column.text) ∧
    ∀ text ∈ c.fixedTexts, IsPlain text ∧ wordsOf text.toList ≠ [])
    ⟨fun h => ⟨h.1, h.2⟩, fun h => ⟨h.columns, h.texts⟩⟩

theorem Plain.tokens {c : Condition} (h : c.Plain) : ∀ t ∈ c.tokens, t.Plain :=
  all_tokens c h.columns h.texts

theorem toList_text (c : Condition) : c.text.toList = c.tokens.flatMap (·.text.toList) := by
  rw [text, String.toList_join, List.flatMap_map]

theorem Plain.segments_text {c : Condition} (h : c.Plain) :
    segmentsBehind [] (wordsOf c.text.toList) = c.tokens.map Token.segment := by
  rw [toList_text, wordsOf_tokens (before_tokens c), segments_tokens h.tokens (isChain_tokens c)]

/-- **The text of a plain condition is read as what it means**, whichever atoms are true. -/
theorem readAtoms?_text (truth : List String → List Cell → Bool) {c : Condition} (h : c.Plain) :
    readAtoms? truth c.text c.values = some (c.holds (.ofAtoms truth)) := by
  rw [readAtoms?, h.segments_text, readSegmentsIn_map truth h.tokens, List.isEmpty_map]
  exact readTokens?_tokens (.ofAtoms truth) c

/-- A plain token has a question mark exactly if it takes a value. -/
theorem Token.Plain.count_text {t : Token} (h : t.Plain) :
    t.text.toList.count '?' = if t.takesValue then 1 else 0 := by
  cases t with
  | comparison column op =>
    have hplain : IsPlain column.text := h
    have hcolumn : column.text.toList.count '?' = 0 :=
      List.count_eq_zero.mpr (hplain.marks '?' (by decide))
    have hop : op.text.toList.count '?' = 0 := by cases op <;> decide
    simp [Token.text, hcolumn, hop, Token.takesValue]
  | fixed text => exact List.count_eq_zero.mpr (h.1.marks '?' (by decide))
  | joint j => cases j <;> rfl
  | opening => rfl
  | closing => rfl

theorem countP_takesValue_tokens (c : Condition) :
    c.tokens.countP Token.takesValue = c.values.length := by
  have hread := readTokens?_tokens (.ofAtoms fun _ _ => true) c
  rw [readTokens?] at hread
  split at hread
  · rename_i hempty
    rw [Bool.and_eq_true, List.isEmpty_iff, List.isEmpty_iff] at hempty
    rw [hempty.1, hempty.2]
    rfl
  · exact countP_takesValue hread

theorem count_tokens {ts : List Token} (h : ∀ t ∈ ts, t.Plain) :
    (ts.flatMap (·.text.toList)).count '?' = ts.countP Token.takesValue := by
  induction ts with
  | nil => rfl
  | cons t ts ih =>
    obtain ⟨ht, hts⟩ := List.forall_mem_cons.mp h
    rw [List.flatMap_cons, List.count_append, ih hts, ht.count_text, List.countP_cons, Nat.add_comm]

/-- **The text of a plain condition has a question mark for each value.** -/
theorem Plain.count_text {c : Condition} (h : c.Plain) :
    c.text.toList.count '?' = c.values.length := by
  rw [toList_text, count_tokens h.tokens, countP_takesValue_tokens]

theorem Token.Plain.text_ne_nil {t : Token} (h : t.Plain) : t.text.toList ≠ [] := by
  cases t with
  | comparison column op => simp [Token.text]
  | fixed text =>
    intro hnil
    have hnil : text.toList = [] := hnil
    exact h.2 (by rw [hnil]; rfl)
  | joint j => simp [Token.text]
  | opening => decide
  | closing => decide

/-- **A plain condition has no text exactly if it says nothing.** -/
theorem Plain.text_eq_empty_iff {c : Condition} (h : c.Plain) : c.text = "" ↔ c.isEmpty = true := by
  rw [← tokens_eq_nil_iff, ← String.toList_eq_nil_iff, toList_text]
  constructor
  · intro hnil
    rw [List.flatMap_eq_nil_iff] at hnil
    exact List.eq_nil_iff_forall_not_mem.mpr fun t ht => (h.tokens t ht).text_ne_nil (hnil t ht)
  · intro hnil
    rw [hnil]
    rfl

/-- **The text of a condition keeps its meaning and its values**: if its parts are plain and none of its
alternatives is empty, then its text says, with its values bound to the question marks one after
another, what the condition states, whichever atoms are true. The values are those of the comparisons
from left to right, and there is one for each question mark. There is no text exactly where nothing is
said. -/
theorem plain_text_keeps_meaning {c : Condition} (hplain : c.Plain) (hfilled : c.isFilled = true) :
    (∀ truth : List String → List Cell → Bool,
      readAtoms? truth c.text c.values = some (c.isTrue (.ofAtoms truth))) ∧
    c.values = c.comparisons.map Comparison.value ∧
    c.text.toList.count '?' = c.values.length ∧
    (c.text = "" ↔ c.isEmpty = true) := by
  refine ⟨fun truth => ?_, rfl, hplain.count_text, hplain.text_eq_empty_iff⟩
  rw [readAtoms?_text truth hplain, holds_eq_isTrue _ c hfilled]

/-- A tree with parts that say nothing, groups of one part, and words that are no names. -/
def mixed : Condition :=
  joined .or
    [joined .and [compare ⟨⟨some "lg", "name"⟩, .notLike, .text "a%"⟩, joined .or [],
      joined .or [compare ⟨⟨none, "turns"⟩, .ge, .integer 3⟩, fixed "lg.id = br.id"]],
    joined .and [joined .and [], joined .and [fixed "x'y"]]]

/-- The text and the meaning of the mixed tree. -/
theorem mixed_text_keeps_meaning :
    mixed.text = "(lg.name NOT LIKE ? AND (turns >= ? OR lg.id = br.id)) OR ((x'y))" ∧
    ∀ truth : List String → List Cell → Bool,
      readAtoms? truth mixed.text [.text "a%", .integer 3] =
        some (truth ["lg.name", "NOT", "LIKE", "?"] [.text "a%"] &&
            (truth ["turns", ">=", "?"] [.integer 3] || truth ["lg.id", "=", "br.id"] []) ||
          truth ["x", "'", "y"] []) := by
  refine ⟨by decide, fun truth => ?_⟩
  obtain ⟨hread, -, -, -⟩ := plain_text_keeps_meaning (c := mixed) (by decide) (by decide)
  have hvalues : mixed.values = [.text "a%", .integer 3] := by decide
  have hmeaning : mixed.isTrue (.ofAtoms truth) =
      (truth (wordsOf "lg.name NOT LIKE ?".toList) [.text "a%"] &&
          (truth (wordsOf "turns >= ?".toList) [.integer 3] ||
            truth (wordsOf "lg.id = br.id".toList) []) ||
        truth (wordsOf "x'y".toList) []) := by
    simp [mixed, isTrue, allTrue, anyTrue, Assignment.ofAtoms, Comparison.text, Column.text,
      Comparator.text]
  rw [← hvalues, hread, hmeaning]
  rfl

end Condition

end GameLog
