import GameLog.Text.Blank

/-!
# Trimming, splitting and comparing text

The operations on text that the other modules share. Each is defined on lists of characters and
offered for strings. Letter case here is that of the ASCII letters only.

Main statements:
* `trimEnd_append_blank`: blanks at the end are trimmed away;
* `trimmed_of_ends`: a text with no blank at its ends is left as it is;
* `lower_lower`: folding case twice is folding it once;
* `occurs_iff`: a part occurs in a text exactly when the text is the part with text around it.
-/

namespace GameLog.Text

/-! ## Blanks -/

/-- The text without the blanks in front of it. -/
def trimStart (cs : List Char) : List Char := cs.dropWhile isBlank

/-- The text without the blanks behind it. -/
def trimEnd (cs : List Char) : List Char := (cs.reverse.dropWhile isBlank).reverse

/-- The text without the blanks around it. -/
def trimmed (cs : List Char) : List Char := trimEnd (trimStart cs)

/-- The text without the blanks around it. -/
def trim (s : String) : String := String.ofList (trimmed s.toList)

/-- The parts of a text between its blanks, empty ones left out. -/
def words (s : String) : List String :=
  ((s.toList.splitOnP isBlank).filter (!·.isEmpty)).map String.ofList

/-- Blanks at the end are trimmed away. -/
theorem trimEnd_append_blank (cs : List Char) {c : Char} (h : isBlank c = true) :
    trimEnd (cs ++ [c]) = trimEnd cs := by
  simp [trimEnd, h]

/-- Nothing is trimmed from a text with no blank at its ends. -/
theorem trimmed_of_ends {cs : List Char} (hhead : ∀ c, cs.head? = some c → isBlank c = false)
    (hlast : ∀ c, cs.getLast? = some c → isBlank c = false) : trimmed cs = cs := by
  have hkeep : ∀ ds : List Char, (∀ c, ds.head? = some c → isBlank c = false) →
      ds.dropWhile isBlank = ds := by
    intro ds hds
    cases ds with
    | nil => rfl
    | cons d ds => exact List.dropWhile_cons_of_neg (by simp [hds d rfl])
  rw [trimmed, trimStart, hkeep cs hhead, trimEnd,
    hkeep cs.reverse fun c hc => hlast c (by rwa [List.head?_reverse] at hc), List.reverse_reverse]

theorem trimmed_of_forall {cs : List Char} (h : ∀ c ∈ cs, isBlank c = false) : trimmed cs = cs :=
  trimmed_of_ends (fun c hc => h c (List.mem_of_head? hc)) fun c hc => h c (List.mem_of_getLast? hc)

/-! ## Letter case -/

/-- The text with its ASCII letters in lower case. -/
def lower (s : String) : String := String.ofList (s.toList.map Char.toLower)

/-- Whether two texts differ in the case of ASCII letters at most. -/
def sameLetters (a b : String) : Bool := lower a == lower b

theorem toLower_of_not_capital {c : Char} (h : ¬(65 ≤ c.val ∧ c.val ≤ 90)) : c.toLower = c :=
  dif_neg h

theorem val_toLower {c : Char} (h : 65 ≤ c.val ∧ c.val ≤ 90) : c.toLower.val = c.val + 32 :=
  congrArg Char.val (dif_pos h)

/-- A letter that is folded to another one is that one or its capital. -/
theorem eq_or_of_toLower {c d : Char} (h : c.toLower = d) :
    c = d ∨ (65 ≤ c.toNat ∧ c.toNat ≤ 90 ∧ d.toNat = c.toNat + 32) := by
  by_cases hc : 65 ≤ c.val ∧ c.val ≤ 90
  · right
    have hval := val_toLower hc
    rw [h] at hval
    have h₁ := UInt32.le_iff_toNat_le.1 hc.1
    have h₂ := UInt32.le_iff_toNat_le.1 hc.2
    have hnat := congrArg UInt32.toNat hval
    rw [UInt32.toNat_add] at hnat
    simp at h₁ h₂ hnat
    omega
  · left
    rw [← h, toLower_of_not_capital hc]

theorem toLower_folded (c : Char) : c.toLower.toLower = c.toLower := by
  by_cases h : 65 ≤ c.val ∧ c.val ≤ 90
  · refine toLower_of_not_capital fun hc => ?_
    rw [val_toLower h] at hc
    have h₁ := UInt32.le_iff_toNat_le.1 h.1
    have h₂ := UInt32.le_iff_toNat_le.1 h.2
    have h₃ := UInt32.le_iff_toNat_le.1 hc.2
    rw [UInt32.toNat_add] at h₃
    simp at h₁ h₂ h₃
    omega
  · rw [toLower_of_not_capital h, toLower_of_not_capital h]

/-- Folding case twice is folding it once. -/
@[simp] theorem lower_lower (s : String) : lower (lower s) = lower s := by
  rw [lower, lower, String.toList_ofList, List.map_map]
  exact congrArg String.ofList (List.map_congr_left fun c _ => toLower_folded c)

/-! ## Parts -/

/-- Whether one text occurs in another. -/
def occurs (part : List Char) : List Char → Bool
  | [] => part.isEmpty
  | c :: rest => part.isPrefixOf (c :: rest) || occurs part rest

/-- A part occurs exactly in the texts that are that part with text around it. -/
theorem occurs_iff {part cs : List Char} :
    occurs part cs = true ↔ ∃ before after, cs = before ++ part ++ after := by
  induction cs with
  | nil =>
    cases part with
    | nil => simp [occurs]
    | cons p ps => simp [occurs]
  | cons c rest ih =>
    simp only [occurs, Bool.or_eq_true, List.isPrefixOf_iff_prefix, ih]
    constructor
    · rintro (⟨after, h⟩ | ⟨before, after, rfl⟩)
      · exact ⟨[], after, by simpa using h.symm⟩
      · exact ⟨c :: before, after, by simp⟩
    · rintro ⟨before, after, h⟩
      cases before with
      | nil => exact .inl ⟨after, by simpa using h.symm⟩
      | cons b bs =>
        simp only [List.cons_append, List.cons.injEq] at h
        exact .inr ⟨bs, after, h.2⟩

/-- Whether a text ends in another. -/
def endsWith (s tail : String) : Bool := tail.toList.isSuffixOf s.toList

/-- Whether a text starts with another. -/
def startsWith (s head : String) : Bool := head.toList.isPrefixOf s.toList

/-- The text around the first place of a separator. -/
def splitFirst (sep : Char) : List Char → Option (List Char × List Char)
  | [] => none
  | c :: rest =>
    if c = sep then some ([], rest) else (splitFirst sep rest).map fun (a, b) => (c :: a, b)

/-- The two parts put together around the separator are the text again. -/
theorem splitFirst_eq {sep : Char} {cs a b : List Char} (h : splitFirst sep cs = some (a, b)) :
    cs = a ++ sep :: b ∧ sep ∉ a := by
  induction cs generalizing a b with
  | nil => simp [splitFirst] at h
  | cons c rest ih =>
    by_cases hc : c = sep
    · simp only [splitFirst, hc, if_true, Option.some.injEq, Prod.mk.injEq] at h
      simp [← h.1, ← h.2, hc]
    · simp only [splitFirst, hc, if_false, Option.map_eq_some_iff, Prod.mk.injEq] at h
      obtain ⟨⟨x, y⟩, hxy, rfl, rfl⟩ := h
      obtain ⟨rfl, hn⟩ := ih hxy
      exact ⟨by simp, by simp [hn, Ne.symm hc]⟩

/-- The parts of a text between commas. -/
def commaParts (cs : List Char) : List (List Char) := cs.splitOn ','

/-- The texts one after another with a separator between them. -/
def joinWith (sep : String) (parts : List String) : String := sep.intercalate parts

theorem takeWhile_of_forall {α : Type} {p : α → Bool} {as : List α} (h : ∀ a ∈ as, p a = true) :
    as.takeWhile p = as := by
  induction as with
  | nil => rfl
  | cons a as ih =>
    rw [List.takeWhile_cons_of_pos (h a (by simp)), ih fun b hb => h b (by simp [hb])]

theorem dropWhile_of_forall {α : Type} {p : α → Bool} {as : List α} (h : ∀ a ∈ as, p a = true) :
    as.dropWhile p = [] := by
  induction as with
  | nil => rfl
  | cons a as ih =>
    rw [List.dropWhile_cons_of_pos (h a (by simp)), ih fun b hb => h b (by simp [hb])]

/-- What holds of all items of lists and of a separator holds of all items of the lists with the
separator between them. -/
theorem forall_intercalate {α : Type} {p : α → Prop} {sep : List α} {lists : List (List α)}
    (hs : ∀ a ∈ sep, p a) (h : ∀ list ∈ lists, ∀ a ∈ list, p a) :
    ∀ a ∈ List.intercalate sep lists, p a := by
  induction lists with
  | nil => nofun
  | cons list lists ih =>
    cases lists with
    | nil => simpa using h list (by simp)
    | cons next lists =>
      intro a ha
      rw [List.intercalate_cons_cons, List.mem_append, List.mem_append] at ha
      rcases ha with (ha | ha) | ha
      · exact h list (by simp) a ha
      · exact hs a ha
      · exact ih (fun l hl => h l (by simp [hl])) a ha

end GameLog.Text
