import GameLog.Query.Binding
import GameLog.Text.Glob
import GameLog.Text.Pattern

/-!
# Globs as patterns of stores

A term with an operator for patterns is bound to a pattern of the store: stars and question marks become
percent signs and underscores, and a text without either is put between two percent signs. Here
characters are compared by equality, as globs compare them.

Main statements:
* `matchesPattern_map_storeWildcard`: a glob and its pattern stand for the same texts;
* `matchesPattern_between_percents`: a plain text between percent signs stands for the texts that it
  occurs in;
* `bound_pattern_matches`: what a bound pattern stands for.
-/

namespace GameLog

open GameLog.Text

/-- **A text is free of wildcards of the store**: there are no percent signs and underscores in it, which
the store would take for wildcards. -/
def PlainForStore (cs : List Char) : Prop := ∀ c ∈ cs, c ≠ '%' ∧ c ≠ '_'

instance (cs : List Char) : Decidable (PlainForStore cs) :=
  List.decidableBAll (fun c => c ≠ '%' ∧ c ≠ '_') cs

variable {raw cs : List Char}

theorem isGlob_iff : isGlob cs = true ↔ '*' ∈ cs ∨ '?' ∈ cs := by
  rw [isGlob, List.any_eq_true]
  constructor
  · rintro ⟨c, hc, hwild⟩
    rcases Bool.or_eq_true_iff.mp hwild with hstar | hone
    · exact .inl (eq_of_beq hstar ▸ hc)
    · exact .inr (eq_of_beq hone ▸ hc)
  · rintro (hstar | hone)
    · exact ⟨'*', hstar, rfl⟩
    · exact ⟨'?', hone, rfl⟩

theorem any_isWildcard_eq (h : PlainForStore raw) : raw.any isWildcard = isGlob raw := by
  rw [isGlob, Bool.eq_iff_iff, List.any_eq_true, List.any_eq_true]
  refine exists_congr fun c => and_congr_right fun hc => ?_
  simp [isWildcard, h c hc]

theorem matchesPattern_equal {c : Char} {pattern : List Char} (h : c ≠ '%' ∧ c ≠ '_') :
    matchesPattern (· == ·) (c :: pattern) cs = true ↔
      ∃ rest, cs = c :: rest ∧ matchesPattern (· == ·) pattern rest = true := by
  rw [matchesPattern_same h.1 h.2]
  constructor
  · rintro ⟨d, rest, rfl, hsame, hrest⟩
    obtain rfl := eq_of_beq hsame
    exact ⟨rest, rfl, hrest⟩
  · rintro ⟨rest, rfl, hrest⟩
    exact ⟨c, rest, rfl, beq_self_eq_true c, hrest⟩

/-! ## Globs -/

theorem storeWildcard_of_ne {c : Char} (hstar : c ≠ '*') (hone : c ≠ '?') : storeWildcard c = c := by
  rw [storeWildcard, if_neg hstar, if_neg hone]

/-- **A glob and its pattern stand for the same texts.** -/
theorem matchesPattern_map_storeWildcard (h : PlainForStore raw) :
    matchesPattern (· == ·) (raw.map storeWildcard) cs = true ↔ GlobMatches raw cs := by
  -- along the glob, for all texts at once, since a star may pass over any part of the text
  induction raw generalizing cs with
  | nil =>
    rw [List.map_nil, matchesPattern, List.isEmpty_iff, globMatches_plain_iff rfl]
  | cons c rest ih =>
    have hrest : PlainForStore rest := fun d hd => h d (List.mem_cons_of_mem c hd)
    rw [List.map_cons]
    by_cases hstar : c = '*'
    · subst hstar
      rw [show storeWildcard '*' = '%' from rfl, matchesPattern_percent, globMatches_star_iff]
      simp only [ih hrest]
    · by_cases hone : c = '?'
      · subst hone
        rw [show storeWildcard '?' = '_' from rfl, matchesPattern_underscore, globMatches_one_iff]
        simp only [ih hrest]
      · rw [storeWildcard_of_ne hstar hone, matchesPattern_equal (h c List.mem_cons_self),
          globMatches_same_iff hstar hone]
        simp only [ih hrest]

/-! ## Plain texts -/

/-- A plain text with a percent sign behind it stands for the texts that start with it. -/
theorem matchesPattern_before_percent (h : PlainForStore raw) :
    matchesPattern (· == ·) (raw ++ ['%']) cs = true ↔ raw <+: cs := by
  induction raw generalizing cs with
  | nil =>
    rw [List.nil_append, matchesPattern_percent]
    exact iff_of_true ⟨cs, [], (List.append_nil cs).symm, rfl⟩ (List.nil_prefix)
  | cons c rest ih =>
    have hrest : PlainForStore rest := fun d hd => h d (List.mem_cons_of_mem c hd)
    rw [List.cons_append, matchesPattern_equal (h c List.mem_cons_self)]
    simp only [ih hrest]
    constructor
    · rintro ⟨_, rfl, after, rfl⟩
      exact ⟨after, rfl⟩
    · rintro ⟨after, rfl⟩
      exact ⟨rest ++ after, rfl, after, rfl⟩

/-- **A plain text between percent signs stands for the texts that it occurs in.** -/
theorem matchesPattern_between_percents (h : PlainForStore raw) :
    matchesPattern (· == ·) ('%' :: raw ++ ['%']) cs = true ↔ raw <:+: cs := by
  rw [List.cons_append, matchesPattern_percent]
  simp only [matchesPattern_before_percent h]
  constructor
  · rintro ⟨before, rest, rfl, after, rfl⟩
    exact ⟨before, after, List.append_assoc before raw after⟩
  · rintro ⟨before, after, rfl⟩
    exact ⟨before, raw ++ after, List.append_assoc before raw after, after, rfl⟩

/-! ## Bound patterns -/

/-- **What a bound pattern stands for**, under either operator for patterns and for a field of any kind. A
glob with stars or question marks stands for the whole texts that it matches; any other text stands for
the texts that it occurs in. -/
theorem bound_pattern_matches {raw : String} (h : PlainForStore raw.toList) {comparator : Comparator}
    (hpattern : comparator.isPattern = true) (column : Column) (kind : Kind) (clause : String) :
    ∃ pattern, Comparison.bind column comparator kind raw clause =
        .ok ⟨column, comparator, .text pattern⟩ ∧
      ∀ subject : String,
        matchesPattern (· == ·) pattern.toList subject.toList = true ↔
          if '*' ∈ raw.toList ∨ '?' ∈ raw.toList then GlobMatches raw.toList subject.toList
          else raw.toList <:+: subject.toList := by
  refine ⟨String.ofList (likePattern raw.toList), ?_, fun subject => ?_⟩
  · rw [Comparison.bind, if_pos hpattern]
  · have hglob : isGlob raw.toList = true ↔ '*' ∈ raw.toList ∨ '?' ∈ raw.toList := isGlob_iff
    rw [String.toList_ofList, likePattern, any_isWildcard_eq h]
    by_cases hwild : isGlob raw.toList = true
    · rw [if_pos hwild, if_pos (hglob.mp hwild), matchesPattern_map_storeWildcard h]
    · rw [if_neg hwild, if_neg (mt hglob.mpr hwild), matchesPattern_between_percents h]

/-- The killers that `*or?` is bound to are those it matches as a glob. -/
theorem orc_glob_matches :
    PlainForStore "*or?".toList ∧ Comparator.like.isPattern = true ∧
      ∃ pattern, Comparison.bind ⟨some "lg", "killer"⟩ .like .text "*or?" "killer=~*or?" =
          .ok ⟨⟨some "lg", "killer"⟩, .like, .text pattern⟩ ∧
        ∀ subject : String, matchesPattern (· == ·) pattern.toList subject.toList = true ↔
          GlobMatches "*or?".toList subject.toList := by
  have hplain : PlainForStore "*or?".toList := by decide
  obtain ⟨pattern, hbind, hmatches⟩ := bound_pattern_matches hplain
    (show Comparator.like.isPattern = true from rfl) ⟨some "lg", "killer"⟩ .text "killer=~*or?"
  refine ⟨hplain, rfl, pattern, hbind, fun subject => ?_⟩
  rw [hmatches subject, if_pos (by decide)]

end GameLog
