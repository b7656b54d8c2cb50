import GameLog.Text.CharSet

/-!
# Blank characters

The characters with the Unicode property `White_Space`. They separate the words of a query and are
trimmed from its clauses.

Main statements:
* `isBlank_of_isWhitespace`: every character that core calls white space is blank;
* `isBlank_of_isDigit`: digits are not.
-/

namespace GameLog.Text

/-- The code points with the property `White_Space`. -/
def blanks : CharSet := [
    (0x9, 0xD), (0x20, 0x20), (0x85, 0x85), (0xA0, 0xA0), (0x1680, 0x1680), (0x2000, 0x200A),
    (0x2028, 0x2029), (0x202F, 0x202F), (0x205F, 0x205F), (0x3000, 0x3000)]

/-- Whether a character is blank. -/
def isBlank (c : Char) : Bool := blanks.mem c.toNat

/-- Core's white space is blank. -/
theorem isBlank_of_isWhitespace {c : Char} (h : c.isWhitespace = true) : isBlank c = true := by
  simp only [Char.isWhitespace, Bool.or_eq_true, decide_eq_true_eq] at h
  rcases h with ((rfl | rfl) | rfl) | rfl <;> rfl

/-- An ASCII digit is not blank. -/
theorem isBlank_of_isDigit {c : Char} (h : c.isDigit = true) : isBlank c = false := by
  have ⟨hfirst, hlast⟩ : 48 ≤ c.toNat ∧ c.toNat ≤ 57 := Char.isDigit_iff_toNat.mp h
  have hdisjoint : CharSet.disjoint [(48, 57)] blanks = true := by decide
  exact CharSet.not_mem_of_disjoint hdisjoint (CharSet.mem_iff.mpr ⟨(48, 57), by simp, hfirst, hlast⟩)

end GameLog.Text
