import GameLog.Statement.Basic
import GameLog.Statement.Reading
import GameLog.Store.Select
import Mathlib.Data.List.Chain

/-!
# Reading the text of conditions

A store is given the text of a condition and not its tokens. The text is read in words: runs of
characters of names, runs of characters of operators, and single marks such as parentheses and
question marks; blanks separate words. A column, an operator and a question mark are a comparison;
two columns with an equals sign between them are an equality. The names of columns stand in the text
as they are, so that the text has one meaning only where they are plain names (`Column.Legible`).

Main statements:
* `wordsOf_tokens`: the words of a text are those of its tokens, of any kind;
* `wordsOf_text`: those of legible tokens are known;
* `readText?_text`: a condition with legible columns is read from its text as what it means.
-/

namespace GameLog

open GameLog.Text

/-! ## Words -/

/-- Whether a character is part of the name of a column behind the short name of its table. -/
def isNamePart (c : Char) : Bool := Store.inName c || c == '.'

/-- Whether a character is part of an operator. -/
def isOperatorPart (c : Char) : Bool := ['=', '!', '<', '>'].contains c

/-- Whether a character goes on with the word in front of it. -/
def goesOn (word : List Char) (c : Char) : Bool :=
  isNamePart c && word.all isNamePart || isOperatorPart c && word.all isOperatorPart

/-- The word of some characters, if there are any. -/
def wordOf (cs : List Char) : List String := if cs.isEmpty then [] else [String.ofList cs]

/-- The words of a text behind the first characters of a word. -/
def wordsBehind (word : List Char) : List Char → List String
  | [] => wordOf word
  | c :: cs =>
    if goesOn word c then wordsBehind (word ++ [c]) cs
    else if isNamePart c || isOperatorPart c then wordOf word ++ wordsBehind [c] cs
    else if Store.startsBlank c then wordOf word ++ wordsBehind [] cs
    else wordOf word ++ String.ofList [c] :: wordsBehind [] cs

/-- The words of a text. -/
def wordsOf (text : List Char) : List String := wordsBehind [] text

/-- Whether characters are one word: a run of one sort. -/
def IsWord (cs : List Char) : Prop :=
  cs ≠ [] ∧ (cs.all isNamePart = true ∨ cs.all isOperatorPart = true)

instance (cs : List Char) : Decidable (IsWord cs) := inferInstanceAs (Decidable (_ ∧ _))

/-- Whether no word goes on into a text. -/
def Breaks (text : List Char) : Prop :=
  ∀ c ∈ text.head?, (isNamePart c || isOperatorPart c) = false

/-- Whether a character stands in no name and no operator. -/
def isMark (c : Char) : Bool := !(isNamePart c || isOperatorPart c)

theorem breaks_mark {c : Char} (h : isMark c = true) (rest : List Char) : Breaks (c :: rest) := by
  intro x hx
  obtain rfl : c = x := by simpa using hx
  simpa [isMark] using h

theorem goesOn_of_all {sort : Char → Bool} (hsort : sort = isNamePart ∨ sort = isOperatorPart)
    {word : List Char} (hword : word.all sort = true) {c : Char} (hc : sort c = true) :
    goesOn word c = true := by
  unfold goesOn
  rcases hsort with rfl | rfl
  · rw [hc, hword, Bool.true_and, Bool.true_or]
  · rw [hc, hword, Bool.true_and, Bool.or_true]

theorem wordsBehind_append {sort : Char → Bool}
    (hsort : sort = isNamePart ∨ sort = isOperatorPart) (rest : List Char) {word cs : List Char}
    (hword : word.all sort = true) (hcs : cs.all sort = true) :
    wordsBehind word (cs ++ rest) = wordsBehind (word ++ cs) rest := by
  induction cs generalizing word with
  | nil => rw [List.nil_append, List.append_nil]
  | cons c cs ih =>
    rw [List.all_cons, Bool.and_eq_true] at hcs
    have hnext : (word ++ [c]).all sort = true := by simp [hword, hcs.1]
    rw [List.cons_append, wordsBehind, if_pos (goesOn_of_all hsort hword hcs.1), ih hnext hcs.2,
      List.append_assoc]
    rfl

theorem goesOn_of_break {c : Char} (h : (isNamePart c || isOperatorPart c) = false)
    (word : List Char) : ¬ goesOn word c = true := by
  rw [Bool.or_eq_false_iff] at h
  simp [goesOn, h.1, h.2]

theorem wordsBehind_break (word : List Char) {rest : List Char} (h : Breaks rest) :
    wordsBehind word rest = wordOf word ++ wordsOf rest := by
  unfold wordsOf
  cases rest with
  | nil => simp [wordsBehind, wordOf]
  | cons c cs =>
    have hc := h c rfl
    have hsort : ¬ (isNamePart c || isOperatorPart c) = true := by rw [hc]; decide
    rw [wordsBehind, wordsBehind, if_neg (goesOn_of_break hc word),
      if_neg (goesOn_of_break hc []), if_neg hsort, if_neg hsort]
    split <;> simp [wordOf]

/-- The words of two texts are those of the first one and those of the second one, if no word goes on
into the second one. -/
theorem wordsBehind_append_breaks (word a : List Char) {rest : List Char} (h : Breaks rest) :
    wordsBehind word (a ++ rest) = wordsBehind word a ++ wordsOf rest := by
  induction a generalizing word with
  | nil => exact wordsBehind_break word h
  | cons c cs ih =>
    rw [List.cons_append, wordsBehind, wordsBehind]
    split
    · exact ih (word ++ [c])
    · split
      · rw [ih [c], List.append_assoc]
      · split <;> rw [ih [], List.append_assoc]
        rfl

/-- A mark ends all words in front of it. -/
theorem wordsOf_append_mark (a : List Char) {c : Char} (h : isMark c = true) (rest : List Char) :
    wordsOf (a ++ c :: rest) = wordsOf (a ++ [c]) ++ wordsOf rest := by
  have hparts : ¬ (isNamePart c || isOperatorPart c) = true := by simpa [isMark] using h
  have hgoes : ¬ goesOn [] c = true := goesOn_of_break (by simpa using hparts) []
  have hmark : wordsOf (c :: rest) = wordsOf [c] ++ wordsOf rest := by
    rw [wordsOf, wordsOf, wordsBehind, wordsBehind, if_neg hgoes, if_neg hgoes, if_neg hparts,
      if_neg hparts]
    split <;> rfl
  have hbehind : wordsOf (a ++ c :: rest) = wordsOf a ++ wordsOf (c :: rest) :=
    wordsBehind_append_breaks [] a (breaks_mark h rest)
  have hend : wordsOf (a ++ [c]) = wordsOf a ++ wordsOf [c] :=
    wordsBehind_append_breaks [] a (breaks_mark h [])
  rw [hbehind, hend, hmark, List.append_assoc]

theorem wordsOf_word {cs rest : List Char} (h : IsWord cs) (hrest : Breaks rest) :
    wordsOf (cs ++ rest) = String.ofList cs :: wordsOf rest := by
  obtain ⟨hne, hcs⟩ := h
  have hall : wordsBehind [] (cs ++ rest) = wordsBehind cs rest := by
    rcases hcs with hcs | hcs
    · exact wordsBehind_append (.inl rfl) rest rfl hcs
    · exact wordsBehind_append (.inr rfl) rest rfl hcs
  rw [wordsOf, hall, wordsBehind_break _ hrest]
  simp [wordOf, hne]

theorem wordsOf_blank (rest : List Char) : wordsOf (' ' :: rest) = wordsOf rest := by
  rw [wordsOf, wordsBehind, if_neg (by decide), if_neg (by decide), if_pos (by decide)]
  rfl

/-- The marks that stand in the text of conditions. -/
def textMarks : List Char := ['(', ')', '?']

theorem wordsOf_mark {c : Char} (h : c ∈ textMarks) (rest : List Char) :
    wordsOf (c :: rest) = String.ofList [c] :: wordsOf rest := by
  simp only [textMarks, List.mem_cons, List.not_mem_nil, or_false] at h
  rcases h with rfl | rfl | rfl <;>
  · rw [wordsOf, wordsBehind, if_neg (by decide), if_neg (by decide), if_neg (by decide)]
    rfl

theorem breaks_blank (rest : List Char) : Breaks (' ' :: rest) := breaks_mark (by decide) rest

theorem wordsOf_word_blank {cs : List Char} (rest : List Char) (h : IsWord cs) :
    wordsOf (cs ++ ' ' :: rest) = String.ofList cs :: wordsOf rest := by
  rw [wordsOf_word h (breaks_blank rest), wordsOf_blank]

/-! ## Words of tokens -/

/-- The words of a comparator. -/
def Comparator.words : Comparator → List String
  | .notLike => ["NOT", "LIKE"]
  | op => [op.text]

/-- The comparator that a word stands for, if it is one word. -/
def Comparator.ofWord? (word : String) : Option Comparator :=
  [eq, ne, lt, gt, le, ge, like].find? fun op => op.text == word

namespace Condition

/-- The words of a token. -/
def Token.words : Token → List String
  | comparison column comparator => column.text :: comparator.words ++ ["?"]
  | fixed text => wordsOf text.toList
  | joint j => [j.text]
  | opening => ["("]
  | closing => [")"]

/-- What is read of a comparison that is not complete. -/
inductive Pending
  | nothing
  | column (text : String)
  | negated (text : String)
  | compared (text : String) (comparator : Comparator)
deriving DecidableEq, Repr

/-- The token that a word is by itself. -/
def Token.ofWord? (word : String) : Option Token :=
  [joint .and, joint .or, opening, closing].find? fun token => token.words == [word]

/-- The tokens of words behind a part of a comparison. -/
def readWords? : Pending → List String → Option (List Token)
  | .nothing, [] => some []
  | _, [] => none
  | .nothing, word :: rest =>
    match Token.ofWord? word with
    | some token => (readWords? .nothing rest).map (token :: ·)
    | none => readWords? (.column word) rest
  | .column text, word :: rest =>
    if word = "NOT" then readWords? (.negated text) rest
    else (Comparator.ofWord? word).bind fun op => readWords? (.compared text op) rest
  | .negated text, word :: rest =>
    if word = "LIKE" then readWords? (.compared text .notLike) rest else none
  | .compared text op, word :: rest =>
    if word = "?" then
      (readWords? .nothing rest).map (.comparison (Column.ofText text) op :: ·)
    else if op = .eq ∧ Token.ofWord? word = none then
      (readWords? .nothing rest).map (.fixed (text ++ " = " ++ word) :: ·)
    else none

/-- **What the text of a condition says** with values for its question marks in their order. -/
def readText? (a : Assignment) (text : String) (values : List Cell) : Option Bool :=
  (readWords? .nothing (wordsOf text.toList)).bind fun tokens => readTokens? a tokens values

end Condition

/-! ## Legible columns -/

namespace Column

/-- **A column is legible**: it is the column of a table, and every character of its text is part
of a name. -/
structure Legible (c : Column) : Prop where
  table : ∃ table, c.table = some table ∧ '.' ∉ table.toList
  text : c.text.toList.all isNamePart = true

theorem splitFirst_append {sep : Char} {a : List Char} (h : sep ∉ a) (b : List Char) :
    splitFirst sep (a ++ sep :: b) = some (a, b) := by
  induction a with
  | nil => simp [splitFirst]
  | cons c cs ih =>
    obtain ⟨hc, hcs⟩ := not_or.mp (fun hmem => h (List.mem_cons.mpr hmem))
    rw [List.cons_append, splitFirst, if_neg (Ne.symm hc), ih hcs]
    rfl

theorem Legible.ofText_text {c : Column} (h : c.Legible) : ofText c.text = c := by
  obtain ⟨⟨table, htable, hpoint⟩, -⟩ := h
  have hsplit : splitFirst '.' c.text.toList = some (table.toList, c.name.toList) := by
    simpa [Column.text, htable] using splitFirst_append hpoint c.name.toList
  rw [ofText, hsplit]
  simp [← htable]

theorem Legible.point_mem {c : Column} (h : c.Legible) : '.' ∈ c.text.toList := by
  obtain ⟨table, htable, -⟩ := h.table
  simp [Column.text, htable]

theorem Legible.ne {c : Column} (h : c.Legible) {word : String} (hw : '.' ∉ word.toList) :
    c.text ≠ word := by
  rintro rfl
  exact hw h.point_mem

theorem Legible.ofWord? {c : Column} (h : c.Legible) : Condition.Token.ofWord? c.text = none := by
  have hand : c.text ≠ "AND" := h.ne (by decide)
  have hor : c.text ≠ "OR" := h.ne (by decide)
  have hopen : c.text ≠ "(" := h.ne (by decide)
  have hclose : c.text ≠ ")" := h.ne (by decide)
  simp [Condition.Token.ofWord?, Condition.Token.words, Joint.text, hand.symm, hor.symm,
    hopen.symm, hclose.symm]

theorem Legible.wordsOf_text {c : Column} (h : c.Legible) {rest : List Char} (hr : Breaks rest) :
    wordsOf (c.text.toList ++ rest) = c.text :: wordsOf rest := by
  have hword : IsWord c.text.toList := ⟨List.ne_nil_of_mem h.point_mem, .inl h.text⟩
  rw [wordsOf_word hword hr, String.ofList_toList]

theorem Legible.wordsOf_self {c : Column} (h : c.Legible) : wordsOf c.text.toList = [c.text] := by
  have hend : Breaks [] := by simp [Breaks]
  have hall := h.wordsOf_text hend
  rwa [List.append_nil] at hall

end Column

/-- A text that states that two legible columns are equal. -/
def IsEquality (text : String) : Prop :=
  ∃ a b : Column, a.Legible ∧ b.Legible ∧ text = a.text ++ " = " ++ b.text

/-! ## The words of tokens -/

namespace Condition

/-- **A token is legible** if each column in it is. -/
def Token.Legible : Token → Prop
  | comparison column _ => column.Legible
  | fixed text => IsEquality text
  | _ => True

/-- Whether a token may stand before another one. What stands behind an equality breaks off its last
word; other tokens end by themselves. -/
def Token.Before : Token → Token → Prop
  | fixed _, .joint _ => True
  | fixed _, .closing => True
  | fixed _, _ => False
  | _, _ => True

/-- Whether a token is true or not by itself. -/
def Token.isAtom : Token → Bool
  | comparison _ _ => true
  | fixed _ => true
  | _ => false

/-- Whether a token ends what stands in front of it. -/
def Token.isEnd : Token → Bool
  | joint _ => true
  | closing => true
  | _ => false

/-- **Two tokens are apart**: none that is true or not stands in front of another one, or of a group. -/
def Token.Apart (t next : Token) : Prop := t.isAtom = true → next.isEnd = true

theorem Token.Apart.before {t next : Token} (h : t.Apart next) : t.Before next := by
  cases t with
  | fixed text =>
    have hend := h rfl
    cases next <;> trivial
  | _ => trivial

theorem wordsOf_comparator (op : Comparator) (rest : List Char) :
    wordsOf (op.text.toList ++ ' ' :: rest) = op.words ++ wordsOf rest := by
  cases op with
  | notLike =>
    have hnot : IsWord "NOT".toList := by decide
    have hlike : IsWord "LIKE".toList := by decide
    exact (wordsOf_word_blank ("LIKE".toList ++ ' ' :: rest) hnot).trans
      (congrArg _ (wordsOf_word_blank rest hlike))
  | _ => exact wordsOf_word_blank rest (by decide)

theorem words_equality {a b : Column} (ha : a.Legible) (hb : b.Legible) :
    (Token.fixed (a.text ++ " = " ++ b.text)).words = [a.text, "=", b.text] := by
  have hword : IsWord ['='] := by decide
  have hbehind : wordsOf ("= ".toList ++ b.text.toList) = ["=", b.text] :=
    (wordsOf_word_blank b.text.toList hword).trans (congrArg _ hb.wordsOf_self)
  have hfirst := ha.wordsOf_text (breaks_blank ("= ".toList ++ b.text.toList))
  rw [wordsOf_blank, hbehind] at hfirst
  simpa [Token.words] using hfirst

theorem wordsOf_comparison (column : Column) (op : Comparator) :
    wordsOf (Token.comparison column op).text.toList =
      wordsOf column.text.toList ++ (op.words ++ ["?"]) := by
  have hbehind : wordsOf (' ' :: (op.text.toList ++ ' ' :: ['?'])) = op.words ++ ["?"] := by
    rw [wordsOf_blank, wordsOf_comparator, wordsOf_mark (by decide) []]
    rfl
  have hall := wordsBehind_append_breaks [] column.text.toList
    (breaks_blank (op.text.toList ++ ' ' :: ['?']))
  rw [hbehind] at hall
  simpa [Token.text, wordsOf] using hall

theorem wordsOf_token {t : Token} (h : t.Legible) : wordsOf t.text.toList = t.words := by
  cases t with
  | comparison column op =>
    have hlegible : column.Legible := h
    rw [wordsOf_comparison, hlegible.wordsOf_self]
    rfl
  | fixed text => rfl
  | joint j => cases j <;> decide
  | opening => rfl
  | closing => rfl

/-- All tokens but fixed texts end with a mark. -/
theorem Token.exists_last {t : Token} (h : ∀ text, t ≠ .fixed text) :
    ∃ front c, t.text.toList = front ++ [c] ∧ isMark c = true := by
  cases t with
  | comparison column op =>
    refine ⟨(column.text ++ " " ++ op.text ++ " ").toList, '?', ?_, by decide⟩
    simp [Token.text]
  | fixed text => exact absurd rfl (h text)
  | joint j =>
    refine ⟨(" " ++ j.text).toList, ' ', ?_, by decide⟩
    simp [Token.text]
  | opening => exact ⟨[], '(', rfl, by decide⟩
  | closing => exact ⟨[], ')', rfl, by decide⟩

/-- What stands behind a fixed text does not go on with it. -/
theorem breaks_behind {text : String} {ts : List Token}
    (h : (Token.fixed text :: ts).IsChain Token.Before) :
    Breaks (ts.flatMap (·.text.toList)) := by
  cases ts with
  | nil => simp [Breaks]
  | cons next ts =>
    have hbefore := (List.isChain_cons_cons.mp h).1
    cases next with
    | joint j =>
      intro c hc
      obtain rfl : ' ' = c := by simpa [Token.text] using hc
      decide
    | closing =>
      intro c hc
      obtain rfl : ')' = c := by simpa [Token.text] using hc
      decide
    | _ => exact hbefore.elim

/-- **The words of a text are those of its tokens**, if no token runs into the next one. -/
theorem wordsOf_tokens {ts : List Token} (h : ts.IsChain Token.Before) :
    wordsOf (ts.flatMap (·.text.toList)) = ts.flatMap fun t => wordsOf t.text.toList := by
  induction ts with
  | nil => rfl
  | cons t ts ih =>
    rw [List.flatMap_cons, List.flatMap_cons, ← ih (List.isChain_cons.mp h).2]
    by_cases hfixed : ∃ text, t = .fixed text
    · obtain ⟨text, rfl⟩ := hfixed
      exact wordsBehind_append_breaks [] _ (breaks_behind h)
    · obtain ⟨front, c, hlast, hmark⟩ := Token.exists_last fun text ht => hfixed ⟨text, ht⟩
      rw [hlast, List.append_assoc, List.singleton_append, wordsOf_append_mark front hmark]

/-- The words of a text of legible tokens. -/
theorem wordsOf_text {ts : List Token} (h : ∀ t ∈ ts, t.Legible) (hs : ts.IsChain Token.Before) :
    wordsOf (ts.flatMap (·.text.toList)) = ts.flatMap Token.words := by
  rw [wordsOf_tokens hs]
  exact List.flatMap_congr fun t ht => wordsOf_token (h t ht)

/-! ## Words are read as their tokens -/

theorem readWords?_single {t : Token} {word : String} (h : Token.ofWord? word = some t)
    (rest : List String) :
    readWords? .nothing (word :: rest) = (readWords? .nothing rest).map (t :: ·) := by
  rw [readWords?, h]

theorem readWords?_compared {c : Column} (h : c.Legible) (op : Comparator) (rest : List String) :
    readWords? .nothing (c.text :: (op.words ++ rest)) = readWords? (.compared c.text op) rest := by
  rw [readWords?, h.ofWord?]
  cases op <;> rfl

theorem readWords?_token {t : Token} (h : t.Legible) (rest : List String) :
    readWords? .nothing (t.words ++ rest) = (readWords? .nothing rest).map (t :: ·) := by
  cases t with
  | comparison column op =>
    have hlegible : column.Legible := h
    have hmark : readWords? (.compared column.text op) ("?" :: rest) =
        (readWords? .nothing rest).map (.comparison column op :: ·) := by
      rw [readWords?, if_pos rfl, hlegible.ofText_text]
    have hread := (readWords?_compared hlegible op ("?" :: rest)).trans hmark
    simpa [Token.words] using hread
  | fixed text =>
    obtain ⟨a, b, ha, hb, rfl⟩ := h
    have hvalue : b.text ≠ "?" := hb.ne (by decide)
    have hright : readWords? (.compared a.text .eq) (b.text :: rest) =
        (readWords? .nothing rest).map (.fixed (a.text ++ " = " ++ b.text) :: ·) := by
      rw [readWords?, if_neg hvalue, if_pos ⟨rfl, hb.ofWord?⟩]
    rw [words_equality ha hb]
    exact (readWords?_compared ha .eq (b.text :: rest)).trans hright
  | joint j => cases j <;> exact readWords?_single rfl rest
  | opening => exact readWords?_single rfl rest
  | closing => exact readWords?_single rfl rest

theorem readWords?_words {ts : List Token} (h : ∀ t ∈ ts, t.Legible) :
    readWords? .nothing (ts.flatMap Token.words) = some ts := by
  induction ts with
  | nil => rfl
  | cons t ts ih =>
    obtain ⟨ht, hts⟩ := List.forall_mem_cons.mp h
    rw [List.flatMap_cons, readWords?_token ht, ih hts]
    rfl

/-! ## The tokens of conditions -/

theorem isChain_joint {a b : List Token} (j : Joint) (ha : a.IsChain Token.Apart)
    (hb : b.IsChain Token.Apart) : (a ++ .joint j :: b).IsChain Token.Apart := by
  refine ha.append (List.isChain_cons.mpr ⟨fun _ _ => nofun, hb⟩) fun x _ y hy => ?_
  obtain rfl : .joint j = y := by simpa using hy
  exact fun _ => rfl

theorem isChain_group {ts : List Token} (h : ts.IsChain Token.Apart) :
    (Token.opening :: ts ++ [Token.closing]).IsChain Token.Apart := by
  have hopen : (Token.opening :: ts).IsChain Token.Apart :=
    List.isChain_cons.mpr ⟨fun _ _ => nofun, h⟩
  refine hopen.append (List.IsChain.singleton _) fun x _ y hy => ?_
  obtain rfl : Token.closing = y := by simpa using hy
  exact fun _ => rfl

theorem isChain_intercalate (j : Joint) {lists : List (List Token)}
    (h : ∀ ts ∈ lists, ts.IsChain Token.Apart) :
    (List.intercalate [.joint j] lists).IsChain Token.Apart := by
  induction lists with
  | nil => exact List.IsChain.nil
  | cons ts lists ih =>
    obtain ⟨hts, hlists⟩ := List.forall_mem_cons.mp h
    cases lists with
    | nil => simpa using hts
    | cons next lists =>
      rw [List.intercalate_cons_cons, List.append_assoc, List.singleton_append]
      exact isChain_joint j hts (ih hlists)

mutual

/-- **The tokens of a condition are apart.** -/
theorem isChain_tokens : (c : Condition) → c.tokens.IsChain Token.Apart
  | joined j parts => by
    rw [tokens]
    exact isChain_intercalate j (isChain_partTokens parts)
  | compare c => List.IsChain.singleton _
  | fixed text => List.IsChain.singleton _

theorem isChain_partTokens : (parts : List Condition) →
    ∀ ts ∈ partTokens parts, ts.IsChain Token.Apart
  | [], _, hts => by cases hts
  | part :: parts, ts, hts => by
    rw [partTokens_cons] at hts
    by_cases hempty : part.isEmpty = true
    · rw [if_pos hempty] at hts
      exact isChain_partTokens parts ts hts
    · rw [if_neg hempty] at hts
      rcases List.mem_cons.mp hts with rfl | hts
      · unfold wrapped
        by_cases hjoint : part.joint?.isSome = true
        · rw [if_pos hjoint]
          exact isChain_group (isChain_tokens part)
        · rw [if_neg hjoint]
          exact isChain_tokens part
      · exact isChain_partTokens parts ts hts

end

theorem before_tokens (c : Condition) : c.tokens.IsChain Token.Before :=
  (isChain_tokens c).imp fun _ _ h => h.before

/-- **A condition is legible** if its columns are, and its fixed texts state equalities. -/
structure Legible (c : Condition) : Prop where
  columns : ∀ comparison ∈ c.comparisons, comparison.column.Legible
  texts : ∀ text ∈ c.fixedTexts, IsEquality text

/-- What holds of the columns in the comparisons of a token and of a fixed text. -/
def Token.All (p : Column → Prop) (q : String → Prop) : Token → Prop
  | comparison column _ => p column
  | fixed text => q text
  | _ => True

section

variable {p : Column → Prop} {q : String → Prop}

mutual

/-- **What holds of the columns and fixed texts of a condition holds of those of its tokens.** -/
theorem all_tokens : (c : Condition) → (∀ comparison ∈ c.comparisons, p comparison.column) →
    (∀ text ∈ c.fixedTexts, q text) → ∀ t ∈ c.tokens, t.All p q
  | joined j parts, hcolumns, htexts => by
    have hparts := all_partTokens parts (by simpa [comparisons] using hcolumns)
      (by simpa [fixedTexts] using htexts)
    rw [Condition.tokens]
    exact forall_intercalate (by simp [Token.All]) hparts
  | compare c, hcolumns, _ => by
    have hcolumn : p c.column := hcolumns c (by simp [comparisons])
    simpa [Condition.tokens, Token.All] using hcolumn
  | fixed text, _, htexts => by
    have htext : q text := htexts text (by simp [fixedTexts])
    simpa [Condition.tokens, Token.All] using htext

theorem all_partTokens : (parts : List Condition) →
    (∀ comparison ∈ comparisonsIn parts, p comparison.column) →
    (∀ text ∈ fixedTextsIn parts, q text) → ∀ ts ∈ partTokens parts, ∀ t ∈ ts, t.All p q
  | [], _, _, _, hts => by cases hts
  | part :: parts, hcolumns, htexts, ts, hts => by
    simp only [comparisonsIn, fixedTextsIn, List.forall_mem_append] at hcolumns htexts
    have hpart := all_tokens part hcolumns.1 htexts.1
    have hparts := all_partTokens parts hcolumns.2 htexts.2
    rw [partTokens_cons] at hts
    by_cases hempty : part.isEmpty = true
    · rw [if_pos hempty] at hts
      exact hparts ts hts
    · rw [if_neg hempty] at hts
      rcases List.mem_cons.mp hts with rfl | hts
      · intro t ht
        by_cases hjoint : part.joint?.isSome = true
        · rw [wrapped, if_pos hjoint] at ht
          simp only [List.cons_append, List.mem_cons, List.mem_append, List.not_mem_nil,
            or_false] at ht
          rcases ht with rfl | ht | rfl
          · trivial
          · exact hpart t ht
          · trivial
        · rw [wrapped, if_neg hjoint] at ht
          exact hpart t ht
      · exact hparts ts hts

end

end

theorem Legible.tokens {c : Condition} (h : c.Legible) : ∀ t ∈ c.tokens, t.Legible := by
  intro t ht
  have hall := all_tokens c h.columns h.texts t ht
  cases t <;> exact hall

/-- The words of the text of a legible condition are those of its tokens. -/
theorem Legible.wordsOf_text {c : Condition} (h : c.Legible) :
    wordsOf c.text.toList = c.tokens.flatMap Token.words := by
  rw [text, String.toList_join, List.flatMap_map]
  exact Condition.wordsOf_text h.tokens (before_tokens c)

/-- **A legible condition is read from its text as what it means**, whatever is true of its
comparisons and equalities. -/
theorem readText?_text (a : Assignment) {c : Condition} (h : c.Legible) :
    readText? a c.text c.values = some (c.holds a) := by
  rw [readText?, h.wordsOf_text, readWords?_words h.tokens]
  exact readTokens?_tokens a c

end Condition

end GameLog
