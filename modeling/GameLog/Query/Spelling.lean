import GameLog.Query.Token

/-!
# Ways to write a term

A term may be written as one token, with its value apart, or with its operator apart too. Putting
operators back to their operands gives the whole term from any of them.

Main statements:
* `join_tokens`: all ways to write a term have the same text;
* `rejoinBehind_of_plainEnds`: a term is put together from any of them, if its name has no operator
  at its ends;
* `rejoinBehind_tokens`: and so is one whose name has no operator in it.
-/

namespace GameLog

open GameLog.Text

/-- A term by its parts. -/
structure SpelledTerm where
  name : String
  operator : String
  value : String
deriving DecidableEq, Repr

/-- Where a term is split. -/
inductive Spelling
  | whole
  | valueApart
  | allApart
deriving DecidableEq, Repr

namespace SpelledTerm

/-- The whole term. -/
def text (t : SpelledTerm) : String := t.name ++ t.operator ++ t.value

/-- The tokens of a term as it is written. -/
def tokens (t : SpelledTerm) : Spelling → List String
  | .whole => [t.name ++ t.operator ++ t.value]
  | .valueApart => [t.name ++ t.operator, t.value]
  | .allApart => [t.name, t.operator, t.value]

/-- All ways to write a term have the same text. -/
theorem join_tokens (t : SpelledTerm) (spelling : Spelling) :
    String.join (t.tokens spelling) = t.text := by
  cases spelling <;> simp [tokens, text, String.append_assoc]

/-- Each token of a term is the whole term, if it is not split, or a part of it. -/
theorem part_of_mem_tokens {t : SpelledTerm} {spelling : Spelling} {token : String}
    (h : token ∈ t.tokens spelling) :
    (spelling = .whole ∧ token = t.text) ∨ token = t.name ++ t.operator ∨ token = t.name ∨
      token = t.operator ∨ token = t.value := by
  cases spelling with
  | whole => exact .inl ⟨rfl, List.mem_singleton.mp h⟩
  | valueApart =>
    rcases List.mem_cons.mp h with hjoined | hvalue
    · exact .inr (.inl hjoined)
    · exact .inr (.inr (.inr (.inr (List.mem_singleton.mp hvalue))))
  | allApart =>
    simp only [tokens, List.mem_cons, List.not_mem_nil, or_false] at h
    exact .inr (.inr h)

/-- The characters that operators are made of. -/
def operatorChars : List Char := ['=', '!', '<', '>', '~']

/-- Whether a term is made of a name without the characters of operators, an operator and a value,
and does not end in an operator itself. -/
def wellFormed (t : SpelledTerm) : Bool :=
  t.name != "" && t.name.toList.all (fun c => !operatorChars.contains c) &&
    isOperator t.operator && !endsWithOperator t.text

theorem wellFormed_iff {t : SpelledTerm} :
    t.wellFormed = true ↔ t.name ≠ "" ∧ (∀ c ∈ t.name.toList, c ∉ operatorChars) ∧
      isOperator t.operator = true ∧ endsWithOperator t.text = false := by
  simp [wellFormed, and_assoc]

theorem mem_operatorChars {token : String} (h : token ∈ operatorTokens) :
    ∀ c ∈ token.toList, c ∈ operatorChars := by
  have all : operatorTokens.all (fun token => token.toList.all operatorChars.contains) = true := by
    decide
  simpa using List.all_eq_true.1 all token h

/-- A text that has other characters than those of operators at both its ends. -/
def PlainEnds (text : String) : Prop :=
  (∃ c, text.toList.head? = some c ∧ c ∉ operatorChars) ∧
    ∃ c, text.toList.getLast? = some c ∧ c ∉ operatorChars

theorem isOperator_of_head {text : String} {c : Char} (h : text.toList.head? = some c)
    (hc : c ∉ operatorChars) : isOperator text = false := by
  rw [Bool.eq_false_iff]
  intro hop
  have hmem : text ∈ operatorTokens := by simpa [isOperator] using hop
  exact hc (mem_operatorChars hmem c (List.mem_of_mem_head? h))

theorem endsWithOperator_of_last {text : String} {c : Char} (h : text.toList.getLast? = some c)
    (hc : c ∉ operatorChars) : endsWithOperator text = false := by
  rw [endsWithOperator, List.any_eq_false]
  intro op hop hend
  simp only [endsWith, Bool.and_eq_true, List.isSuffixOf_iff_suffix] at hend
  have hne : ∀ op ∈ operatorTokens, op.toList ≠ [] := by decide
  obtain ⟨before, htext⟩ := hend.2
  have hlast : op.toList.getLast? = some c := by
    rw [← h, ← htext, List.getLast?_append, List.getLast?_eq_some_getLast (hne op hop),
      Option.some_or]
  exact hc (mem_operatorChars hop c (List.mem_of_getLast? hlast))

theorem PlainEnds.of_name {name : String} (hne : name ≠ "")
    (h : ∀ c ∈ name.toList, c ∉ operatorChars) : PlainEnds name := by
  have hcs : name.toList ≠ [] := by simpa using hne
  exact ⟨⟨name.toList.head hcs, List.head?_eq_some_head hcs, h _ (List.head_mem hcs)⟩,
    name.toList.getLast hcs, List.getLast?_eq_some_getLast hcs, h _ (List.getLast_mem hcs)⟩

theorem PlainEnds.isOperator_append {name : String} (h : PlainEnds name) (rest : String) :
    isOperator (name ++ rest) = false := by
  obtain ⟨⟨c, hhead, hc⟩, -⟩ := h
  exact isOperator_of_head (by rw [String.toList_append, List.head?_append, hhead]; rfl) hc

theorem PlainEnds.ne_empty {name : String} (h : PlainEnds name) : name ≠ "" := by
  obtain ⟨⟨c, hhead, -⟩, -⟩ := h
  rintro rfl
  simp at hhead

theorem endsWithOperator_append {name op : String} (hne : name ≠ "") (h : isOperator op = true) :
    endsWithOperator (name ++ op) = true := by
  rw [endsWithOperator, List.any_eq_true]
  refine ⟨op, by simpa [isOperator] using h, ?_⟩
  have : name ++ op ≠ op := by
    intro he
    have := congrArg String.length he
    rw [String.length_append] at this
    exact hne (by rw [← String.length_eq_zero_iff]; omega)
  simp [this, endsWith]

/-- A term whose name has no operator at its ends is put together from any way to write it. -/
theorem rejoinBehind_of_plainEnds {t : SpelledTerm} (hname : PlainEnds t.name)
    (hop : isOperator t.operator = true) (hend : endsWithOperator t.text = false)
    (spelling : Spelling) (done rest : List String) :
    rejoinBehind done (t.tokens spelling ++ rest) = rejoinBehind (t.text :: done) rest := by
  cases spelling with
  | whole =>
    have hw : isOperator t.text = false := by
      rw [text, String.append_assoc]
      exact hname.isOperator_append _
    change rejoinBehind done (t.text :: rest) = _
    cases rest with
    | nil => simp [rejoinBehind, hw]
    | cons next rest => rw [rejoinBehind_word hw, hend, if_neg (by decide)]
  | valueApart =>
    have hw : isOperator (t.name ++ t.operator) = false := hname.isOperator_append _
    change rejoinBehind done ((t.name ++ t.operator) :: t.value :: rest) = _
    rw [rejoinBehind_word hw, endsWithOperator_append hname.ne_empty hop, if_pos rfl, text]
  | allApart =>
    have hw : isOperator t.name = false := by
      have : isOperator (t.name ++ "") = false := hname.isOperator_append _
      rwa [String.append_empty] at this
    obtain ⟨-, c, hlast, hc⟩ := hname
    change rejoinBehind done (t.name :: t.operator :: t.value :: rest) = _
    rw [rejoinBehind_word hw, endsWithOperator_of_last hlast hc, if_neg (by decide),
      rejoinBehind_operator hop, text]

/-- A term is put together from any way to write it. -/
theorem rejoinBehind_tokens {t : SpelledTerm} (h : t.wellFormed = true) (spelling : Spelling)
    (done rest : List String) :
    rejoinBehind done (t.tokens spelling ++ rest) = rejoinBehind (t.text :: done) rest := by
  obtain ⟨hne, hname, hop, hend⟩ := wellFormed_iff.1 h
  exact rejoinBehind_of_plainEnds (.of_name hne hname) hop hend spelling done rest

end SpelledTerm

end GameLog
