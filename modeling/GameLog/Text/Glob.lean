import GameLog.Text.Basic

/-!
# Patterns of the query language

In a glob a star stands for any characters and a question mark for exactly one. Any other character
stands for itself.

Main statements:
* `globMatches_star_iff`: a star passes over some characters in front;
* `globMatches_plain_iff`: a glob without stars and question marks stands for itself alone.
-/

namespace GameLog.Text

/-- That a glob stands for a whole text. -/
inductive GlobMatches : List Char → List Char → Prop
  | nil : GlobMatches [] []
  | star {ps cs : List Char} (passed : List Char) (h : GlobMatches ps cs) :
    GlobMatches ('*' :: ps) (passed ++ cs)
  | one {ps cs : List Char} (c : Char) (h : GlobMatches ps cs) : GlobMatches ('?' :: ps) (c :: cs)
  | same {ps cs : List Char} {c : Char} (star : c ≠ '*') (one : c ≠ '?') (h : GlobMatches ps cs) :
    GlobMatches (c :: ps) (c :: cs)

/-- Whether there is a star or a question mark in a text. -/
def isGlob (cs : List Char) : Bool := cs.any fun c => c == '*' || c == '?'

/-- A star passes over some characters in front. -/
theorem globMatches_star_iff {ps cs : List Char} :
    GlobMatches ('*' :: ps) cs ↔ ∃ passed rest, cs = passed ++ rest ∧ GlobMatches ps rest := by
  constructor
  · intro h
    cases h with
    | star passed h => exact ⟨passed, _, rfl, h⟩
    | same hs _ h => exact absurd rfl hs
  · rintro ⟨passed, rest, rfl, h⟩
    exact .star passed h

theorem globMatches_one_iff {ps cs : List Char} :
    GlobMatches ('?' :: ps) cs ↔ ∃ c rest, cs = c :: rest ∧ GlobMatches ps rest := by
  constructor
  · intro h
    cases h with
    | one c h => exact ⟨c, _, rfl, h⟩
    | same _ ho h => exact absurd rfl ho
  · rintro ⟨c, rest, rfl, h⟩
    exact .one c h

theorem globMatches_same_iff {p : Char} {ps cs : List Char} (hs : p ≠ '*') (ho : p ≠ '?') :
    GlobMatches (p :: ps) cs ↔ ∃ rest, cs = p :: rest ∧ GlobMatches ps rest := by
  constructor
  · intro h
    cases h with
    | star passed h => exact absurd rfl hs
    | one c h => exact absurd rfl ho
    | same _ _ h => exact ⟨_, rfl, h⟩
  · rintro ⟨rest, rfl, h⟩
    exact .same hs ho h

/-- A glob without stars and question marks stands for itself alone. -/
theorem globMatches_plain_iff {ps cs : List Char} (h : isGlob ps = false) :
    GlobMatches ps cs ↔ cs = ps := by
  induction ps generalizing cs with
  | nil =>
    constructor
    · intro hm
      cases hm
      rfl
    · rintro rfl
      exact .nil
  | cons p ps ih =>
    simp only [isGlob, List.any_cons, Bool.or_eq_false_iff, beq_eq_false_iff_ne] at h
    rw [globMatches_same_iff h.1.1 h.1.2]
    constructor
    · rintro ⟨rest, rfl, hm⟩
      rw [(ih h.2).1 hm]
    · rintro rfl
      exact ⟨ps, rfl, (ih h.2).2 rfl⟩

end GameLog.Text
