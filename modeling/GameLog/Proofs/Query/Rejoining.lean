import GameLog.Query.Spelling

/-!
# Operators put back to their operands

Whoever types a query may put blanks around its operators, so the tokens of a term may be one, two
or three. Whatever the tokens are, putting operators back only moves the borders between them; and
tokens that spell out terms become these terms again, one for one, however each of them is written.

Main statements:
* `rejoinBehind_spellOut`: terms that are spelled out are put together behind what is done;
* `rejoin_spelledOut`: no text is lost, and terms that are spelled out come back.
-/

namespace GameLog

open GameLog.Text

/-- The tokens of terms one behind another, each as it is written. -/
def spellOut (terms : List (SpelledTerm × Spelling)) : List String :=
  terms.flatMap fun t => t.1.tokens t.2

/-- Terms that are spelled out are put together one after another, behind what is done. -/
theorem rejoinBehind_spellOut {terms : List (SpelledTerm × Spelling)}
    (h : ∀ t ∈ terms, t.1.wellFormed = true) (done rest : List String) :
    rejoinBehind done (spellOut terms ++ rest) =
      rejoinBehind ((terms.map (·.1.text)).reverse ++ done) rest := by
  induction terms generalizing done with
  | nil => rfl
  | cons t terms ih =>
    have hstep := SpelledTerm.rejoinBehind_tokens (h t (by simp)) t.2 done (spellOut terms ++ rest)
    have hrest := ih (fun u hu => h u (by simp [hu])) (t.1.text :: done)
    rw [spellOut, List.flatMap_cons, List.append_assoc, ← spellOut, hstep, hrest]
    simp

/-- Putting operators back loses no text of any tokens, and it undoes every way to write terms: the
terms come back whole, in order and none beside them. -/
theorem rejoin_spelledOut (tokens : List String) (terms : List (SpelledTerm × Spelling)) :
    String.join (rejoin tokens) = String.join tokens ∧
      ((∀ t ∈ terms, t.1.wellFormed = true) →
        rejoin (spellOut terms) = terms.map fun t => t.1.text) := by
  refine ⟨rejoin_text tokens, fun h => ?_⟩
  have hrun := rejoinBehind_spellOut h [] []
  simpa [rejoin, rejoinBehind] using hrun

/-- Operators that others start with, values that start like operators, and a blank too many. -/
theorem rejoin_spelledOut_mixed :
    String.join (rejoin ["=", "xl", "!", "==", "="]) = "=xl!===" ∧
      rejoin ["xl>", "=10", "god", "!==", "Xom", "sc<=5", "name", "!~", "=x"] =
        ["xl>=10", "god!==Xom", "sc<=5", "name!~=x"] := by
  have h := rejoin_spelledOut ["=", "xl", "!", "==", "="]
    [(⟨"xl", ">", "=10"⟩, .valueApart), (⟨"god", "!==", "Xom"⟩, .allApart),
      (⟨"sc", "<=", "5"⟩, .whole), (⟨"name", "!~", "=x"⟩, .allApart)]
  exact ⟨h.1.trans (by decide), (h.2 (by decide)).trans (by decide)⟩

end GameLog
