import GameLog.Text.Basic

/-!
# Patterns of stores

In a pattern a percent sign stands for any characters and an underscore for exactly one. All other
characters stand for those that they are the same as, which the caller decides.

Main statements:
* `anySuffix_iff`: the search finds exactly the ends of a text;
* `matchesPattern_percent`: a percent sign passes over some characters in front;
* `matchesPattern_underscore`, `matchesPattern_same`: any other character stands for one.
-/

namespace GameLog.Text

/-- Whether a test holds of some end of a text, the text itself and the empty text among them. -/
def anySuffix (test : List Char → Bool) : List Char → Bool
  | [] => test []
  | c :: cs => test (c :: cs) || anySuffix test cs

/-- Whether a pattern stands for a whole text. -/
def matchesPattern (same : Char → Char → Bool) : List Char → List Char → Bool
  | [], cs => cs.isEmpty
  | p :: ps, cs =>
    if p = '%' then anySuffix (matchesPattern same ps) cs
    else match cs with
      | [] => false
      | c :: cs => (p == '_' || same p c) && matchesPattern same ps cs

/-- The search finds exactly the ends of a text. -/
theorem anySuffix_iff {test : List Char → Bool} {cs : List Char} :
    anySuffix test cs = true ↔ ∃ a b, cs = a ++ b ∧ test b = true := by
  induction cs with
  | nil =>
    refine ⟨fun h => ⟨[], [], rfl, h⟩, ?_⟩
    rintro ⟨a, b, hab, h⟩
    obtain ⟨-, rfl⟩ := List.append_eq_nil_iff.1 hab.symm
    exact h
  | cons c cs ih =>
    simp only [anySuffix, Bool.or_eq_true, ih]
    constructor
    · rintro (h | ⟨a, b, rfl, h⟩)
      · exact ⟨[], c :: cs, rfl, h⟩
      · exact ⟨c :: a, b, rfl, h⟩
    · rintro ⟨a, b, hab, h⟩
      rcases a with _ | ⟨x, a⟩
      · rw [List.nil_append] at hab
        exact .inl (hab ▸ h)
      · obtain ⟨rfl, rfl⟩ := List.cons.inj hab
        exact .inr ⟨a, b, rfl, h⟩

/-- A percent sign passes over some characters in front. -/
theorem matchesPattern_percent {same : Char → Char → Bool} {ps cs : List Char} :
    matchesPattern same ('%' :: ps) cs = true ↔
      ∃ a b, cs = a ++ b ∧ matchesPattern same ps b = true := by
  simp [matchesPattern, anySuffix_iff]

/-- An underscore stands for exactly one character. -/
theorem matchesPattern_underscore {same : Char → Char → Bool} {ps cs : List Char} :
    matchesPattern same ('_' :: ps) cs = true ↔
      ∃ c rest, cs = c :: rest ∧ matchesPattern same ps rest = true := by
  cases cs <;> simp [matchesPattern, and_assoc]

/-- Any other character stands for those that it is the same as. -/
theorem matchesPattern_same {same : Char → Char → Bool} {p : Char} {ps cs : List Char}
    (hpercent : p ≠ '%') (hunderscore : p ≠ '_') :
    matchesPattern same (p :: ps) cs = true ↔
      ∃ c rest, cs = c :: rest ∧ same p c = true ∧ matchesPattern same ps rest = true := by
  cases cs <;> simp [matchesPattern, hpercent, hunderscore, and_assoc]

/-- Whether two characters are the same letter. -/
def sameLetter (a b : Char) : Bool := a.toLower == b.toLower

end GameLog.Text
