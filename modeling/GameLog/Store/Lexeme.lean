import GameLog.Store.Name

/-!
# The parts of the text of declarations

A store reads text in parts: words, names and texts in quotes, numbers, bytes and marks. Gaps
between them do not matter: blanks, comments from two hyphens to the end of the line, and comments
between a slash with a star and a star with a slash. A name stands in double quotes, grave accents
or square brackets, a text in single quotes. Inside its quotes a quote is written twice.

Main statements:
* `lexemes_word`: a word is read to its end;
* `lexemes_mark`: a bracket or separator is read by itself;
* `lexemes_gap`: a blank is passed over.
-/

namespace GameLog.Store

open GameLog.Text

/-- A part of a text. What cannot be read is broken. -/
inductive Lexeme
  | word (text : String)
  | quoted (name : String)
  | literal (text : String)
  | number
  | bytes
  | mark (c : Char)
  | broken
deriving DecidableEq, Repr

/-! ## Characters -/

/-- Whether a character starts a blank between parts. -/
def startsBlank (c : Char) : Bool := [' ', '\t', '\n', '\x0c', '\r'].contains c

/-- Whether a character goes on with a blank. -/
def inBlank (c : Char) : Bool := startsBlank c || c == '\x0b'

/-- The characters that are parts by themselves. -/
def marks : List Char :=
  ['(', ')', ',', ';', '.', '=', '<', '>', '!', '+', '-', '*', '/', '%', '&', '|', '~']

/-- Whether a character is a hexadecimal digit. -/
def isHexDigit (c : Char) : Bool := c.isDigit || 'a' ≤ c.toLower && c.toLower ≤ 'f'

/-! ## Numbers -/

/-- What stands behind digits. -/
def behindDigits (cs : List Char) : List Char := cs.dropWhile Char.isDigit

/-- What stands behind a fraction, if there is one. -/
def behindFraction : List Char → List Char
  | '.' :: rest => behindDigits rest
  | rest => rest

/-- What stands behind a sign, if there is one. -/
def behindSign : List Char → List Char
  | [] => []
  | c :: rest => if c == '+' || c == '-' then rest else c :: rest

/-- What stands behind an exponent, if there is one. -/
def behindExponent : List Char → List Char
  | [] => []
  | c :: rest =>
    if c.toLower == 'e' && (behindSign rest).head?.any Char.isDigit then
      behindDigits (behindSign rest)
    else c :: rest

/-- What stands behind the rest of a number, by its first character. -/
def behindNumber (c : Char) (rest : List Char) : List Char :=
  if c == '.' then behindExponent (behindDigits rest)
  else if c == '0' && rest.head?.any (·.toLower == 'x') && rest.tail.head?.any isHexDigit then
    rest.tail.dropWhile isHexDigit
  else behindExponent (behindFraction (behindDigits rest))

theorem length_behindDigits (cs : List Char) : (behindDigits cs).length ≤ cs.length :=
  (List.dropWhile_sublist _).length_le

theorem length_behindFraction (cs : List Char) : (behindFraction cs).length ≤ cs.length := by
  unfold behindFraction
  split
  · exact Nat.le_succ_of_le (length_behindDigits _)
  · exact Nat.le_refl _

theorem length_behindSign (cs : List Char) : (behindSign cs).length ≤ cs.length := by
  unfold behindSign
  split
  · exact Nat.le_refl _
  · split
    · exact Nat.le_succ _
    · exact Nat.le_refl _

theorem length_behindExponent (cs : List Char) : (behindExponent cs).length ≤ cs.length := by
  unfold behindExponent
  split
  · exact Nat.le_refl _
  · split
    · exact Nat.le_succ_of_le (Nat.le_trans (length_behindDigits _) (length_behindSign _))
    · exact Nat.le_refl _

theorem length_behindNumber (c : Char) (rest : List Char) :
    (behindNumber c rest).length ≤ rest.length := by
  unfold behindNumber
  repeat' split
  · exact Nat.le_trans (length_behindExponent _) (length_behindDigits _)
  · exact Nat.le_trans (List.dropWhile_sublist _).length_le (by rw [List.length_tail]; omega)
  · exact Nat.le_trans (length_behindExponent _)
      (Nat.le_trans (length_behindFraction _) (length_behindDigits _))

/-! ## Comments and quotes -/

/-- What stands behind the end of a comment between stars. -/
def behindComment : List Char → List Char
  | [] => []
  | [_] => []
  | a :: b :: rest => if a == '*' && b == '/' then rest else behindComment (b :: rest)

/-- What stands in front of a quote, and what behind it. -/
def takeQuoted (quote : Char) : List Char → Option (List Char × List Char)
  | [] => none
  | [c] => if c = quote then some ([], []) else none
  | c :: d :: rest =>
    if c ≠ quote then (takeQuoted quote (d :: rest)).map fun (name, more) => (c :: name, more)
    else if d = quote then (takeQuoted quote rest).map fun (name, more) => (c :: name, more)
    else some ([], d :: rest)

theorem length_behindComment (cs : List Char) : (behindComment cs).length ≤ cs.length := by
  fun_induction behindComment cs with
  | case1 => exact Nat.le_refl _
  | case2 => exact Nat.zero_le _
  | case3 a b rest h => simp only [List.length_cons]; omega
  | case4 a b rest h ih => exact Nat.le_succ_of_le ih

/-- There is no more behind a quote than before. -/
theorem length_takeQuoted {quote : Char} {cs name more : List Char}
    (h : takeQuoted quote cs = some (name, more)) : more.length ≤ cs.length := by
  fun_induction takeQuoted quote cs generalizing name with
  | case1 => cases h
  | case2 => cases h; exact Nat.zero_le _
  | case3 c hc => cases h
  | case4 c d rest hc ih =>
    obtain ⟨⟨_, _⟩, hx, h⟩ := Option.map_eq_some_iff.1 h
    cases h
    exact Nat.le_succ_of_le (ih hx)
  | case5 c rest hc ih =>
    obtain ⟨⟨_, _⟩, hx, h⟩ := Option.map_eq_some_iff.1 h
    cases h
    exact Nat.le_succ_of_le (Nat.le_succ_of_le (ih hx))
  | case6 c d rest hc hd => cases h; exact Nat.le_succ _

/-! ## Parts -/

/-- The part that a number is, by what stands behind it: no name may follow at once. -/
def Lexeme.ofNumber (behind : List Char) : Lexeme :=
  if behind.head?.any inName then broken else number

/-- The part that bytes are, by their digits and what stands behind: pairs of digits and a quote. -/
def Lexeme.ofBytes (digits behind : List Char) : Lexeme :=
  if digits.length % 2 == 0 && behind.head? == some '\x27' then bytes else broken

/-- The part between two quotes. -/
def Lexeme.ofQuoted (quote : Char) (text : List Char) : Lexeme :=
  if quote = '\x27' then literal (String.ofList text) else quoted (String.ofList text)

/-- The part that a single character is. -/
def Lexeme.ofMark (c : Char) : Lexeme := if marks.contains c then mark c else broken

/-- The part that a character starts, unless it starts a gap, and what stands behind. -/
def readLexeme (c : Char) (rest : List Char) : Option Lexeme × List Char :=
  if startsBlank c then (none, rest.dropWhile inBlank)
  else if c == byteOrderMark then (none, rest)
  else if c.toLower == 'x' && rest.head? == some '\x27' then
    let behind := rest.tail.dropWhile isHexDigit
    (some (.ofBytes (rest.tail.takeWhile isHexDigit) behind), (behind.dropWhile (· != '\x27')).tail)
  else if startsName c then
    (some (.word (String.ofList (c :: rest.takeWhile inName))), rest.dropWhile inName)
  else if c.isDigit || c == '.' && rest.head?.any Char.isDigit then
    let behind := behindNumber c rest
    (some (.ofNumber behind), behind.dropWhile inName)
  else if c == '-' && rest.head? == some '-' then (none, rest.dropWhile (· != '\n'))
  else if c == '/' && rest.head? == some '*' && rest.length != 1 then
    (none, behindComment rest.tail)
  else if c == '[' then
    match splitFirst ']' rest with
    | some (name, more) => (some (.quoted (String.ofList name)), more)
    | none => (some .broken, [])
  else if c == '"' || c == '\x60' || c == '\x27' then
    match takeQuoted c rest with
    | some (text, more) => (some (.ofQuoted c text), more)
    | none => (some .broken, [])
  else (some (.ofMark c), rest)

/-- There is no more behind a part than behind its first character. -/
theorem length_readLexeme (c : Char) (rest : List Char) :
    (readLexeme c rest).2.length ≤ rest.length := by
  have drop (p : Char → Bool) : (rest.dropWhile p).length ≤ rest.length :=
    (List.dropWhile_sublist p).length_le
  unfold readLexeme
  repeat' split
  · exact drop _
  · exact Nat.le_refl _
  · rw [List.length_tail]
    refine Nat.le_trans (Nat.sub_le _ _) (Nat.le_trans (List.dropWhile_sublist _).length_le ?_)
    exact Nat.le_trans (List.dropWhile_sublist _).length_le (by rw [List.length_tail]; omega)
  · exact drop _
  · exact Nat.le_trans (List.dropWhile_sublist _).length_le (length_behindNumber _ _)
  · exact drop _
  · exact Nat.le_trans (length_behindComment _) (by rw [List.length_tail]; omega)
  · rename_i h
    rw [(splitFirst_eq h).1, List.length_append, List.length_cons]
    exact Nat.le_trans (Nat.le_succ _) (Nat.le_add_left _ _)
  · exact Nat.zero_le _
  · rename_i h
    exact length_takeQuoted h
  · exact Nat.zero_le _
  · exact Nat.le_refl _

/-- The parts of a text. -/
def lexemes : List Char → List Lexeme
  | [] => []
  | c :: rest => (readLexeme c rest).1.toList ++ lexemes (readLexeme c rest).2
termination_by cs => cs.length
decreasing_by
  have := length_readLexeme c rest
  rw [List.length_cons]
  omega

/-! ## Laws -/

/-- A blank is passed over. -/
theorem lexemes_gap {c : Char} (h : startsBlank c = true) {rest : List Char}
    (hr : rest.head? ≠ some '\x0b') : lexemes (c :: rest) = lexemes rest := by
  have skip {c : Char} (h : startsBlank c = true) (rest : List Char) :
      lexemes (c :: rest) = lexemes (rest.dropWhile inBlank) := by
    rw [lexemes]
    simp [readLexeme, h]
  rw [skip h]
  cases rest with
  | nil => rfl
  | cons d rest =>
    by_cases hd : startsBlank d = true
    · rw [skip hd, List.dropWhile_cons_of_pos (by simp [inBlank, hd])]
    · rw [List.dropWhile_cons_of_neg]
      have : d ≠ '\x0b' := fun e => hr (by rw [e]; rfl)
      simp [inBlank, hd, this]

theorem startsBlank_of_startsName {c : Char} (h : startsName c = true) : startsBlank c = false := by
  cases hb : startsBlank c with
  | false => rfl
  | true =>
    simp only [startsBlank, List.contains_eq_mem, List.mem_cons, List.not_mem_nil, or_false,
      decide_eq_true_eq] at hb
    rcases hb with rfl | rfl | rfl | rfl | rfl <;> cases h

/-- Whether characters go on with a word in front of them. -/
def continuesWord (cs : List Char) : Bool := cs.head?.any fun c => inName c || c == '\x27'

/-- A word is read to its end. -/
theorem lexemes_word {cs rest : List Char} (h : isBareWord cs = true)
    (hr : continuesWord rest = false) :
    lexemes (cs ++ rest) = .word (String.ofList cs) :: lexemes rest := by
  cases cs with
  | nil => simp [isBareWord] at h
  | cons c cs =>
    simp only [isBareWord, Bool.and_eq_true, List.all_eq_true] at h
    have hb := startsBlank_of_startsName h.1
    have hm : c ≠ byteOrderMark := by rintro rfl; cases h.1
    have hn : ∀ r tail, rest = r :: tail → inName r = false ∧ r ≠ '\x27' := by
      rintro r tail rfl
      simpa [continuesWord] using hr
    have hq : (cs ++ rest).head? ≠ some '\x27' := by
      cases cs with
      | nil =>
        cases rest with
        | nil => exact Option.some_ne_none _ ∘ Eq.symm
        | cons r rest => exact fun e => (hn r rest rfl).2 (Option.some.inj e)
      | cons d cs =>
        intro e
        have := h.2 d (List.mem_cons_self)
        rw [Option.some.inj e] at this
        cases this
    have taken : (cs ++ rest).takeWhile inName = cs := by
      rw [List.takeWhile_append_of_pos h.2]
      cases rest with
      | nil => simp
      | cons r rest => simp [(hn r rest rfl).1]
    have dropped : (cs ++ rest).dropWhile inName = rest := by
      rw [List.dropWhile_append_of_pos h.2]
      cases rest with
      | nil => simp
      | cons r rest => simp [(hn r rest rfl).1]
    have read : readLexeme c (cs ++ rest) = (some (.word (String.ofList (c :: cs))), rest) := by
      unfold readLexeme
      rw [if_neg (by simp [hb]), if_neg (by simpa using hm), if_neg (fun e => hq ?_), if_pos h.1,
        taken, dropped]
      exact beq_iff_eq.1 (Bool.and_eq_true_iff.1 e).2
    rw [List.cons_append, lexemes, read]
    rfl

/-- A bracket or separator is read by itself. -/
theorem lexemes_mark {c : Char} (h : c ∈ ['(', ')', ',', ';']) (rest : List Char) :
    lexemes (c :: rest) = .mark c :: lexemes rest := by
  rw [lexemes]
  simp only [List.mem_cons, List.not_mem_nil, or_false] at h
  rcases h with rfl | rfl | rfl | rfl <;> rfl

end GameLog.Store
