import GameLog.Query.TermTree

/-!
# Reading trees of terms

Terms are read token by token, with a level behind each opening. The tokens of a part add that part
to the level, and those of an expression its alternatives.
Main statement: `readTerms_tokens`, the tokens of an expression are read as its condition.
-/

namespace GameLog

/-! ## Terms and levels -/

theorem ne_of_readTerm {s : Scope} {token : String} {c : Comparison}
    (h : readTerm s token = .ok c) : token ≠ orToken ∧ token ≠ openToken ∧ token ≠ closeToken := by
  have none : ∀ t, termParts? t = none → t ≠ token := by
    rintro t ht rfl
    simp [readTerm, ht] at h
  exact ⟨(none _ (by decide)).symm, (none _ (by decide)).symm, (none _ (by decide)).symm⟩

namespace TermLevel

/-- All alternatives of a level, the current one last. -/
def alternatives (l : TermLevel) : List Condition := l.done ++ [together l.parts]

/-- A level closes if it has one alternative, or none that says nothing. -/
theorem close_eq_ok (l : TermLevel)
    (h : 1 < l.alternatives.length → ∀ c ∈ l.alternatives, c.isEmpty = false) :
    l.close = .ok (TermPart.either l.alternatives) := by
  rcases l with ⟨_ | ⟨first, done⟩, parts⟩
  · rfl
  · have : (first :: (done ++ [together parts])).any Condition.isEmpty = false := by
      rw [List.any_eq_false]
      intro c hc
      simpa using h (by simp [alternatives]) c (by simpa [alternatives] using hc)
    simp only [close, List.cons_append, this, alternatives]
    cases hd : done ++ [together parts] with
    | nil => simp at hd
    | cons next rest => simp [TermPart.either]

end TermLevel

namespace TermPart

/-! ## Tokens of trees -/

theorem close_of_fits {accepted : String → Bool} {bind : String → Comparison} {tree : TermTree}
    (h : treeFits accepted (1 < tree.length) tree = true) {l : TermLevel}
    (hl : l.alternatives = treeConditions bind tree) :
    l.close = .ok (either (treeConditions bind tree)) := by
  rw [← hl]
  refine l.close_eq_ok fun hlen => ?_
  rw [hl, length_treeConditions] at hlen
  rw [hl]
  exact isEmpty_of_mem_treeConditions (by simpa [hlen] using h)

mutual

/-- The tokens of a part are read as one more part of a level. -/
theorem read_tokens {s : Scope} {accepted : String → Bool} {bind : String → Comparison}
    (hb : ∀ token, accepted token = true → readTerm s token = .ok (bind token)) :
    (part : TermPart) → part.fits accepted = true →
    ∀ (l : TermLevel) (outer : List TermLevel) (rest : List String),
      readTermsIn s l outer (part.tokens ++ rest) =
        readTermsIn s (l.push (part.condition bind)) outer rest
  | term token, h, l, outer, rest => by
    have ht := hb token (by simpa [fits] using h)
    obtain ⟨hor, hopen, hclose⟩ := ne_of_readTerm ht
    simp only [tokens, List.cons_append, List.nil_append, readTermsIn, hor, hopen, hclose, if_false,
      ht, condition]
    rfl
  | group alternatives, h, l, outer, rest => by
    simp only [fits, Bool.and_eq_true] at h
    obtain ⟨l', hl, hr⟩ := read_treeTokens hb alternatives (by simpa using h.1) _ h.2 []
      (l :: outer) (closeToken :: rest)
    have hclose := close_of_fits h.2 (by simpa using hl)
    rw [tokens, List.cons_append, List.cons_append, readTermsIn, if_neg (by decide), if_pos rfl,
      List.append_assoc, List.singleton_append]
    refine hr.trans ?_
    rw [readTermsIn, if_neg (by decide), if_neg (by decide), if_pos rfl, hclose]
    rfl

theorem read_partsTokens {s : Scope} {accepted : String → Bool} {bind : String → Comparison}
    (hb : ∀ token, accepted token = true → readTerm s token = .ok (bind token)) :
    (parts : List TermPart) → partsFit accepted parts = true →
    ∀ (l : TermLevel) (outer : List TermLevel) (rest : List String),
      readTermsIn s l outer (partsTokens parts ++ rest) =
        readTermsIn s ⟨l.done, l.parts ++ partsConditions bind parts⟩ outer rest
  | [], _, l, outer, rest => by simp [partsTokens, partsConditions]
  | part :: parts, h, l, outer, rest => by
    simp only [partsFit, Bool.and_eq_true] at h
    rw [partsTokens, List.append_assoc, read_tokens hb part h.1, read_partsTokens hb parts h.2]
    simp [TermLevel.push, partsConditions]

/-- The tokens of an expression are read as more alternatives of a level. -/
theorem read_treeTokens {s : Scope} {accepted : String → Bool} {bind : String → Comparison}
    (hb : ∀ token, accepted token = true → readTerm s token = .ok (bind token)) :
    (tree : TermTree) → tree ≠ [] → (filled : Bool) → treeFits accepted filled tree = true →
    ∀ (done : List Condition) (outer : List TermLevel) (rest : List String),
      ∃ l : TermLevel, l.alternatives = done ++ treeConditions bind tree ∧
        readTermsIn s ⟨done, []⟩ outer (treeTokens tree ++ rest) = readTermsIn s l outer rest
  | [], hne, _, _, _, _, _ => absurd rfl hne
  | [parts], _, filled, h, done, outer, rest => by
    simp only [treeFits, Bool.and_eq_true] at h
    refine ⟨⟨done, partsConditions bind parts⟩, ?_, ?_⟩
    · simp [TermLevel.alternatives, treeConditions]
    · rw [treeTokens, read_partsTokens hb parts h.1.1]
      simp
  | parts :: next :: tree, _, filled, h, done, outer, rest => by
    simp only [treeFits, Bool.and_eq_true] at h
    obtain ⟨l, hl, hr⟩ := read_treeTokens hb (next :: tree) (by simp) filled
      (by simpa [treeFits] using h.2) (done ++ [TermLevel.together (partsConditions bind parts)])
      outer rest
    refine ⟨l, by simp [hl, treeConditions], ?_⟩
    rw [treeTokens, List.append_assoc, read_partsTokens hb parts h.1.1, List.cons_append,
      readTermsIn, if_pos rfl, ← hr]
    · simp [TermLevel.next]
    · simp

end

end TermPart

/-- The tokens of an expression are read as its condition. -/
theorem readTerms_tokens {s : Scope} {accepted : String → Bool} {bind : String → Comparison}
    (hb : ∀ token, accepted token = true → readTerm s token = .ok (bind token)) {tree : TermTree}
    (h : tree.fits accepted = true) :
    readTerms s (TermPart.treeTokens tree) = .ok (tree.condition bind) := by
  simp only [TermTree.fits, Bool.and_eq_true] at h
  obtain ⟨l, hl, hr⟩ := TermPart.read_treeTokens hb tree (by simpa using h.1) _ h.2 [] [] []
  have hclose := TermPart.close_of_fits h.2 (by simpa using hl)
  rw [List.append_nil] at hr
  refine Eq.trans hr ?_
  rw [readTermsIn, hclose]
  rfl

end GameLog
