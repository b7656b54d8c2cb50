import GameLog.CellText
import GameLog.Proofs.Outcome
import GameLog.Records

/-!
# Texts of records and texts of terms

A record may give a value as a text, and a term compares a field with a text. Both are read by the kind
of the field, each in its own way. A term compares a date with the stored form as the text stands, and it
has no word for a truth value that was left blank; what is kept of a record is found by any other text that
gave it, and always by its own text.

Main statements:
* `cellOf_string_iff`: what is kept of a text, by the kind of its field;
* `binds_given_text_iff`: which texts bind to what is kept of them;
* `given_text_is_found`: how a value that was given as a text is found.
-/

namespace GameLog

open GameLog.Text

/-- **A text stands for a value of a kind as terms write it**: a date in the stored form, and a truth value
by a word. -/
def Kind.WrittenForTerms : Kind → String → Prop
  | .integer, _ => True
  | .boolean, s => trim s ≠ ""
  | .date, s => Time.normal s = .ok s
  | .text, _ => True

variable {f : FieldSpec} {s : String} {v : Cell}

/-! ## What is kept -/

/-- What is kept of a text, by the kind of its field. -/
theorem cellOf_string_iff : cellOf f (.string s) = .ok v ↔
    match f.kind with
    | .integer => ∃ n, readInt? (trim s) = some n ∧ v = .integer n
    | .boolean => ∃ flag, recordFlag? s = some flag ∧ v = flagCell flag
    | .date => ∃ stamp, Time.normal s = .ok stamp ∧ v = .text stamp
    | .text => v = .text s := by
  rw [cellOf, givenCell]
  · cases f.kind with
    | integer => cases h : readInt? (trim s) <;> simp [integerOf?, h, eq_comm]
    | boolean => cases h : recordFlag? s <;> simp [flagOf?, h, eq_comm]
    | date => cases h : Time.normal s <;> simp [stampOf?, h, Except.map, Except.mapError, eq_comm]
    | text => simp [textOf?, eq_comm]
  · nofun

theorem recordFlag?_of_ne (h : trim s ≠ "") : recordFlag? s = readFlag? s := if_neg h

theorem flags_of_blank (h : trim s = "") : recordFlag? s = some false ∧ readFlag? s = none := by
  refine ⟨if_pos h, ?_⟩
  rw [readFlag?, h]
  rfl

/-! ## What is found -/

theorem bind_eq_ok_iff {column : Column} {kind : Kind} {clause : String} :
    Comparison.bind column .eq kind s clause = .ok ⟨column, .eq, v⟩ ↔ bindValue? kind s = some v := by
  rw [Comparison.bind, if_neg (by decide)]
  cases bindValue? kind s <;> simp

/-- **A text binds to what is kept of it exactly if it is written as terms write values.** -/
theorem binds_given_text_iff (h : cellOf f (.string s) = .ok v) {column : Column} {clause : String} :
    Comparison.bind column .eq f.kind s clause = .ok ⟨column, .eq, v⟩ ↔ f.kind.WrittenForTerms s := by
  rw [bind_eq_ok_iff]
  rw [cellOf_string_iff] at h
  cases hkind : f.kind with
  | integer =>
    rw [hkind] at h
    obtain ⟨n, hread, rfl⟩ := h
    simp [Kind.WrittenForTerms, bindValue?, hread]
  | boolean =>
    rw [hkind] at h
    obtain ⟨flag, hflag, rfl⟩ := h
    by_cases hblank : trim s = ""
    · simp [Kind.WrittenForTerms, bindValue?, hblank, (flags_of_blank hblank).2]
    · rw [recordFlag?_of_ne hblank] at hflag
      simp [Kind.WrittenForTerms, bindValue?, hblank, hflag]
  | date =>
    rw [hkind] at h
    obtain ⟨stamp, hstamp, rfl⟩ := h
    simp [Kind.WrittenForTerms, bindValue?, hstamp, eq_comm]
  | text =>
    rw [hkind] at h
    obtain rfl := h
    simp [Kind.WrittenForTerms, bindValue?]

/-- There are no blanks around a number. -/
theorem trim_intText (n : Int) : trim (intText n) = intText n := by
  have hdigits : ∀ c ∈ (natText n.natAbs).toList, isBlank c = false := by
    intro c hc
    rw [natText, String.toList_ofList] at hc
    exact isBlank_of_isDigit (Nat.isDigit_of_mem_toDigits (by decide) (by decide) hc)
  have hall : ∀ c ∈ (intText n).toList, isBlank c = false := by
    unfold intText
    split
    · intro c hc
      rw [String.toList_append, List.mem_append] at hc
      rcases hc with hc | hc
      · obtain rfl : c = '-' := List.mem_singleton.mp hc
        decide
      · exact hdigits c hc
    · exact hdigits
  rw [trim, trimmed_of_forall hall, String.ofList_toList]

/-- What is kept of a text is bound to by its own text. -/
theorem bindValue?_shown (h : cellOf f (.string s) = .ok v) : bindValue? f.kind v.shown = some v := by
  rw [cellOf_string_iff] at h
  cases hkind : f.kind with
  | integer =>
    rw [hkind] at h
    obtain ⟨n, hread, rfl⟩ := h
    rw [bindValue?, Cell.shown, trim_intText, readInt?_intText (inWord_of_readInt? hread)]
    rfl
  | boolean =>
    rw [hkind] at h
    obtain ⟨flag, -, rfl⟩ := h
    cases flag <;> decide +kernel
  | date =>
    rw [hkind] at h
    obtain ⟨stamp, -, rfl⟩ := h
    rfl
  | text =>
    rw [hkind] at h
    obtain rfl := h
    rfl

/-- **How a value that was given as a text is found.** A text that is written as terms write values binds to
what is kept of it. A blank truth value is kept as falsehood, and no term can be written with it. What is
kept is always bound to by its own text. -/
theorem given_text_is_found (h : cellOf f (.string s) = .ok v) (column : Column) (clause : String) :
    (f.kind.WrittenForTerms s →
      Comparison.bind column .eq f.kind s clause = .ok ⟨column, .eq, v⟩) ∧
    (f.kind = .boolean → trim s = "" → v = flagCell false ∧
      Comparison.bind column .eq f.kind s clause = .error (.malformed clause)) ∧
    Comparison.bind column .eq f.kind v.shown clause = .ok ⟨column, .eq, v⟩ := by
  refine ⟨(binds_given_text_iff h).mpr, fun hkind hblank => ?_, bind_eq_ok_iff.mpr (bindValue?_shown h)⟩
  obtain ⟨hrecord, hterm⟩ := flags_of_blank hblank
  rw [cellOf_string_iff, hkind] at h
  obtain ⟨flag, hflag, rfl⟩ := h
  rw [hrecord] at hflag
  rw [← Option.some.inj hflag, hkind, Comparison.bind, if_neg (by decide), bindValue?, hterm]
  exact ⟨rfl, rfl⟩

/-- A spelled-out truth value is found, whatever blanks are around it. -/
theorem given_yes_is_found :
    cellOf ⟨"wiz", .boolean, true, "wiz"⟩ (.string " Yes ") = .ok (flagCell true) ∧
      Kind.WrittenForTerms .boolean " Yes " ∧
      Comparison.bind ⟨some "lg", "wiz"⟩ .eq .boolean " Yes " "wiz= Yes " =
        .ok ⟨⟨some "lg", "wiz"⟩, .eq, flagCell true⟩ := by
  have hkept : cellOf ⟨"wiz", .boolean, true, "wiz"⟩ (.string " Yes ") = .ok (flagCell true) :=
    cellOf_string_iff.mpr ⟨true, by decide +kernel, rfl⟩
  have hwritten : Kind.WrittenForTerms .boolean " Yes " := by
    change trim " Yes " ≠ ""
    decide +kernel
  exact ⟨hkept, hwritten, (given_text_is_found hkept ⟨some "lg", "wiz"⟩ "wiz= Yes ").1 hwritten⟩

/-- A truth value that was left blank and a date that was not given in the stored form are kept, and not
found by their texts. -/
theorem given_text_is_missed :
    (cellOf ⟨"wiz", .boolean, true, "wiz"⟩ (.string "") = .ok (flagCell false) ∧
      Comparison.bind ⟨some "lg", "wiz"⟩ .eq .boolean "" "wiz=" = .error (.malformed "wiz=")) ∧
    cellOf ⟨"end", .date, true, "tend"⟩ (.string "20100523153000S") =
        .ok (.text "2010-06-23 15:30:00") ∧
      Comparison.bind ⟨some "lg", "tend"⟩ .eq .date "20100523153000S" "end=20100523153000S" ≠
        .ok ⟨⟨some "lg", "tend"⟩, .eq, .text "2010-06-23 15:30:00"⟩ := by
  have hstamp : Time.normal "20100523153000S" = .ok "2010-06-23 15:30:00" :=
    ok_of_toOption (by decide +kernel)
  refine ⟨⟨cellOf_string_iff.mpr ⟨false, by decide +kernel, rfl⟩, ?_⟩,
    cellOf_string_iff.mpr ⟨_, hstamp, rfl⟩, ?_⟩
  · rw [Comparison.bind, if_neg (by decide), bindValue?, (flags_of_blank (by decide +kernel)).2]
    rfl
  · rw [Ne, bind_eq_ok_iff]
    decide +kernel

end GameLog
