import GameLog.Statement.Truth

/-!
# Reading conditions back

A store reads the text of a condition by precedence: "and" binds tighter than "or", and parentheses
stand around a group. The question marks stand for the listed values in their order. A condition
without any text is no restriction.

Tokens are read from left to right. Behind each opening there is a level that keeps whether one of
the complete alternatives is true, and whether the current one is so far.

Main statements:
* `tokens_eq_nil_iff`: a condition has no tokens exactly if it says nothing;
* `readTokens?_tokens`: the tokens of a condition are read as what it means.
-/

namespace GameLog

namespace Condition

/-! ## Levels -/

/-- What is read between one pair of parentheses: whether one of the complete alternatives is true,
whether all of the current one is, and whether an operand has to follow. -/
structure ReadLevel where
  done : Bool
  current : Bool
  due : Bool
deriving DecidableEq, Repr

namespace ReadLevel

/-- Nothing read yet. -/
def start : ReadLevel := ⟨false, true, true⟩

/-- A level with one more operand. -/
def operand (l : ReadLevel) (value : Bool) : Option ReadLevel :=
  if l.due then some ⟨l.done, l.current && value, false⟩ else none

/-- A level with a joint behind an operand. -/
def joint (l : ReadLevel) (joint : Joint) : Option ReadLevel :=
  if l.due then none
  else match joint with
    | .and => some ⟨l.done, l.current, true⟩
    | .or => some ⟨l.done || l.current, true, true⟩

/-- What a level says as a whole. -/
def value (l : ReadLevel) : Option Bool := if l.due then none else some (l.done || l.current)

end ReadLevel

/-! ## Tokens -/

/-- What tokens behind the levels read so far say, innermost first, with values for the question
marks. -/
def readTokensIn (a : Assignment) (l : ReadLevel) (outer : List ReadLevel) :
    List Token → List Cell → Option Bool
  | [], [] => if outer.isEmpty then l.value else none
  | .comparison column comparator :: ts, v :: vs =>
    (l.operand (a.comparison ⟨column, comparator, v⟩)).bind fun l => readTokensIn a l outer ts vs
  | .fixed text :: ts, vs =>
    (l.operand (a.fixed text)).bind fun l => readTokensIn a l outer ts vs
  | .joint j :: ts, vs => (l.joint j).bind fun l => readTokensIn a l outer ts vs
  | .opening :: ts, vs => if l.due then readTokensIn a .start (l :: outer) ts vs else none
  | .closing :: ts, vs =>
    match outer with
    | [] => none
    | level :: outer =>
      (l.value.bind level.operand).bind fun l => readTokensIn a l outer ts vs
  | _, _ => none

/-- What tokens say with values for the question marks. -/
def readTokens? (a : Assignment) (tokens : List Token) (values : List Cell) : Option Bool :=
  if tokens.isEmpty && values.isEmpty then some true else readTokensIn a .start [] tokens values

/-! ## The tokens of a condition -/

/-- The tokens of a part that says something: joined parts stand in parentheses. -/
def wrapped (c : Condition) : List Token :=
  if c.joint?.isSome then .opening :: c.tokens ++ [.closing] else c.tokens

theorem partTokens_cons (part : Condition) (parts : List Condition) :
    partTokens (part :: parts) =
      if part.isEmpty then partTokens parts else part.wrapped :: partTokens parts := by
  simp only [partTokens, wrapped]
  split
  · rfl
  · split <;> rfl

theorem partTokens_eq_nil_iff {parts : List Condition} :
    partTokens parts = [] ↔ areEmpty parts = true := by
  induction parts with
  | nil => simp [partTokens, areEmpty]
  | cons part parts ih =>
    by_cases h : part.isEmpty = true <;> simp [partTokens_cons, areEmpty, h, ih]

theorem intercalate_partTokens {joint : Joint} {part : Condition} {parts : List Condition}
    (h : part.isEmpty = false) (hp : areEmpty parts = false) :
    List.intercalate [.joint joint] (partTokens (part :: parts)) =
      part.wrapped ++ .joint joint :: List.intercalate [.joint joint] (partTokens parts) := by
  rw [partTokens_cons, h]
  cases hx : partTokens parts with
  | nil => simp [partTokens_eq_nil_iff, hp] at hx
  | cons x xs => simp [List.intercalate_cons_cons]

theorem intercalate_partTokens_last {joint : Joint} {part : Condition} {parts : List Condition}
    (h : part.isEmpty = false) (hp : areEmpty parts = true) :
    List.intercalate [.joint joint] (partTokens (part :: parts)) = part.wrapped := by
  simp [partTokens_cons, h, partTokens_eq_nil_iff.2 hp]

theorem wrapped_ne_nil (c : Condition) : c.wrapped ≠ [] := by
  cases c <;> simp [wrapped, joint?, tokens]

/-- A condition has no tokens exactly if it says nothing. -/
theorem tokens_eq_nil_iff {c : Condition} : c.tokens = [] ↔ c.isEmpty = true := by
  cases c with
  | compare c => simp [tokens, isEmpty]
  | fixed text => simp [tokens, isEmpty]
  | joined joint parts =>
    rw [tokens, isEmpty, ← partTokens_eq_nil_iff]
    induction parts with
    | nil => simp [partTokens]
    | cons part parts ih =>
      by_cases h : part.isEmpty = true
      · simpa [partTokens_cons, h] using ih
      · rw [Bool.not_eq_true] at h
        cases hx : partTokens parts <;>
          simp [partTokens_cons, h, hx, List.intercalate_cons_cons, wrapped_ne_nil]

mutual

/-- The tokens of a part that says something are read as one operand. -/
theorem read_wrapped (a : Assignment) : (c : Condition) → c.isEmpty = false →
    ∀ (l : ReadLevel) (outer : List ReadLevel) (ts : List Token) (vs : List Cell), l.due = true →
      readTokensIn a l outer (c.wrapped ++ ts) (c.values ++ vs) =
        readTokensIn a ⟨l.done, l.current && c.holds a, false⟩ outer ts vs
  | compare c, _, l, outer, ts, vs, h => by
    simp [wrapped, joint?, tokens, values, comparisons, readTokensIn, ReadLevel.operand, h, holds]
  | fixed text, _, l, outer, ts, vs, h => by
    simp [wrapped, joint?, tokens, values, comparisons, readTokensIn, ReadLevel.operand, h, holds]
  | joined .and parts, hne, l, outer, ts, vs, h => by
    have hp : areEmpty parts = false := by simpa [isEmpty] using hne
    have := read_and a parts hp .start (l :: outer) (.closing :: ts) vs rfl
    simp only [wrapped, joint?, Option.isSome_some, if_true, tokens, List.cons_append,
      List.append_assoc, readTokensIn, h, values, comparisons, List.nil_append] at this ⊢
    rw [this]
    simp [ReadLevel.value, ReadLevel.start, ReadLevel.operand, h, holds]
  | joined .or parts, hne, l, outer, ts, vs, h => by
    have hp : areEmpty parts = false := by simpa [isEmpty] using hne
    obtain ⟨l', hl, this⟩ := read_or a parts hp .start (l :: outer) (.closing :: ts) vs rfl rfl
    simp only [wrapped, joint?, Option.isSome_some, if_true, tokens, List.cons_append,
      List.append_assoc, readTokensIn, h, values, comparisons, List.nil_append] at this ⊢
    rw [this]
    simp [hl, ReadLevel.start, ReadLevel.operand, h, holds, hp]

/-- Parts joined by "and" are read as operands of one alternative. -/
theorem read_and (a : Assignment) : (parts : List Condition) → areEmpty parts = false →
    ∀ (l : ReadLevel) (outer : List ReadLevel) (ts : List Token) (vs : List Cell), l.due = true →
      readTokensIn a l outer (List.intercalate [.joint .and] (partTokens parts) ++ ts)
          ((comparisonsIn parts).map (·.value) ++ vs) =
        readTokensIn a ⟨l.done, l.current && allHold a parts, false⟩ outer ts vs
  | [], hne, _, _, _, _, _ => by simp [areEmpty] at hne
  | part :: parts, hne, l, outer, ts, vs, h => by
    by_cases hpart : part.isEmpty = true
    · have hp : areEmpty parts = false := by simpa [areEmpty, hpart] using hne
      simpa [partTokens_cons, hpart, comparisonsIn, comparisons_of_isEmpty part hpart, allHold]
        using read_and a parts hp l outer ts vs h
    · rw [Bool.not_eq_true] at hpart
      have first := fun ts vs => read_wrapped a part hpart l outer ts vs h
      by_cases hp : areEmpty parts = true
      · simpa [intercalate_partTokens_last hpart hp, comparisonsIn, values,
          comparisonsIn_of_areEmpty parts hp, allHold, hpart, allHold_of_areEmpty a hp]
          using first ts vs
      · rw [Bool.not_eq_true] at hp
        have rest := read_and a parts hp ⟨l.done, l.current && part.holds a, true⟩ outer ts vs rfl
        rw [intercalate_partTokens hpart hp, comparisonsIn, List.map_append, List.append_assoc,
          List.append_assoc]
        exact (first _ _).trans (by simpa [readTokensIn, ReadLevel.joint, allHold, hpart,
          Bool.and_assoc] using rest)

/-- Parts joined by "or" are read as alternatives. -/
theorem read_or (a : Assignment) : (parts : List Condition) → areEmpty parts = false →
    ∀ (l : ReadLevel) (outer : List ReadLevel) (ts : List Token) (vs : List Cell), l.due = true →
      l.current = true → ∃ l' : ReadLevel, l'.value = some (l.done || anyHolds a parts) ∧
        readTokensIn a l outer (List.intercalate [.joint .or] (partTokens parts) ++ ts)
          ((comparisonsIn parts).map (·.value) ++ vs) = readTokensIn a l' outer ts vs
  | [], hne, _, _, _, _, _, _ => by simp [areEmpty] at hne
  | part :: parts, hne, l, outer, ts, vs, h, hc => by
    by_cases hpart : part.isEmpty = true
    · have hp : areEmpty parts = false := by simpa [areEmpty, hpart] using hne
      simpa [partTokens_cons, hpart, comparisonsIn, comparisons_of_isEmpty part hpart, anyHolds]
        using read_or a parts hp l outer ts vs h hc
    · rw [Bool.not_eq_true] at hpart
      have first := fun ts vs => read_wrapped a part hpart l outer ts vs h
      by_cases hp : areEmpty parts = true
      · refine ⟨⟨l.done, part.holds a, false⟩, ?_, ?_⟩
        · simp [ReadLevel.value, anyHolds, hpart, anyHolds_of_areEmpty a hp]
        · simpa [intercalate_partTokens_last hpart hp, comparisonsIn, values,
            comparisonsIn_of_areEmpty parts hp, hc] using first ts vs
      · rw [Bool.not_eq_true] at hp
        obtain ⟨l', hl, rest⟩ :=
          read_or a parts hp ⟨l.done || part.holds a, true, true⟩ outer ts vs rfl rfl
        refine ⟨l', by simpa [anyHolds, hpart, Bool.or_assoc] using hl, ?_⟩
        rw [intercalate_partTokens hpart hp, comparisonsIn, List.map_append, List.append_assoc,
          List.append_assoc]
        exact (first _ _).trans (by simpa [readTokensIn, ReadLevel.joint, hc] using rest)

end

/-- The tokens of a condition are read as what it means. -/
theorem readTokens?_tokens (a : Assignment) (c : Condition) :
    readTokens? a c.tokens c.values = some (c.holds a) := by
  cases c with
  | compare c =>
    simp [readTokens?, tokens, values, comparisons, readTokensIn, ReadLevel.operand,
      ReadLevel.start, ReadLevel.value, holds]
  | fixed text =>
    simp [readTokens?, tokens, values, comparisons, readTokensIn, ReadLevel.operand,
      ReadLevel.start, ReadLevel.value, holds]
  | joined joint parts =>
    by_cases hp : areEmpty parts = true
    · have he : (joined joint parts).isEmpty = true := by simpa [isEmpty] using hp
      simp [readTokens?, tokens, values, partTokens_eq_nil_iff.2 hp, comparisons,
        comparisonsIn_of_areEmpty parts hp, holds_of_isEmpty a he]
    · rw [Bool.not_eq_true] at hp
      have hne : ((joined joint parts).tokens.isEmpty && (joined joint parts).values.isEmpty) =
          false := by
        have : (joined joint parts).tokens ≠ [] := by
          rw [Ne, tokens_eq_nil_iff, isEmpty, hp]
          decide
        simp [this]
      rw [readTokens?, hne, if_neg (by decide), tokens, values, comparisons]
      cases joint with
      | and =>
        have := read_and a parts hp .start [] [] [] rfl
        simp only [List.append_nil] at this
        rw [this]
        simp [readTokensIn, ReadLevel.value, ReadLevel.start, holds]
      | or =>
        obtain ⟨l', hl, this⟩ := read_or a parts hp .start [] [] [] rfl rfl
        simp only [List.append_nil] at this
        rw [this]
        simp [readTokensIn, hl, ReadLevel.start, holds, hp]

end Condition

end GameLog
