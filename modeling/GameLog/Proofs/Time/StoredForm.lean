import GameLog.Proofs.Time.Calendar
import GameLog.Time.Reading

/-!
# The stored form of moments

The stored form writes the parts of a moment one behind the other, the greater ones first, each with as
many digits as the greatest of its kind. It is therefore read back as that moment, and in the years 0 to
9999 the texts are ordered, byte by byte, as the moments are.

Main statements:
* `read_text`: the stored form of a moment is read as that moment;
* `utf8_text_lt_iff`: the bytes of the texts are ordered as the seconds of the moments.
-/

namespace GameLog

open GameLog.Text

/-- The bytes of a text. -/
def utf8 (s : String) : List UInt8 := s.toUTF8.data.toList

namespace Moment

variable {m n : Moment}

/-- **A moment can be stored**: there is such a date and such a time of day, in a year of four digits. -/
structure Storable (m : Moment) : Prop where
  valid : m.valid = true
  low : -9999 ≤ m.year
  high : m.year ≤ 9999

/-- The digits of a part of a moment. -/
def digits (width n : Nat) : List Char := (paddedText width n).toList

/-- The text of a moment behind its year. -/
def textBehindYear (m : Moment) : List Char :=
  '-' :: (digits 2 m.month ++ '-' :: (digits 2 m.day ++ ' ' ::
    (digits 2 m.hour ++ ':' :: (digits 2 m.minute ++ ':' :: digits 2 m.second))))

theorem length_digits {width n : Nat} (hw : 0 < width) (h : n < Nat.pow 10 width) :
    (digits width n).length = width := length_paddedText hw h

theorem isDigit_of_mem_digits {width n : Nat} {c : Char} (h : c ∈ digits width n) :
    c.isDigit = true := List.all_eq_true.mp (all_isDigit_paddedText width n) c h

theorem digits_eq_cons {width n : Nat} (hw : 0 < width) (h : n < Nat.pow 10 width) :
    ∃ c cs, digits width n = c :: cs ∧ c.isDigit = true := by
  have hne : digits width n ≠ [] := by
    rw [← List.length_pos_iff, length_digits hw h]
    exact hw
  obtain ⟨c, cs, hcs⟩ := List.exists_cons_of_ne_nil hne
  exact ⟨c, cs, hcs, isDigit_of_mem_digits (hcs ▸ List.mem_cons_self)⟩

theorem toList_text (m : Moment) : m.text.toList = (yearText m.year).toList ++ m.textBehindYear := by
  simp [text, textBehindYear, digits, String.toList_append]

theorem yearText_of_nonneg {year : Int} (h : 0 ≤ year) :
    (yearText year).toList = digits 4 year.natAbs := by
  rw [yearText, if_neg (by omega), String.empty_append, digits]

theorem yearText_of_neg {year : Int} (h : year < 0) :
    (yearText year).toList = '-' :: digits 4 year.natAbs := by
  simp [yearText, if_pos h, digits]

theorem natAbs_year_lt {year : Int} (hlow : -9999 ≤ year) (hhigh : year ≤ 9999) :
    year.natAbs < Nat.pow 10 4 := by
  change _ < 10000
  omega

/-- **The parts of a moment fit their digits.** -/
theorem parts_lt (h : m.valid = true) :
    m.month < 100 ∧ m.day < 100 ∧ m.hour < 100 ∧ m.minute < 100 ∧ m.second < 100 := by
  rw [valid, Bool.and_eq_true] at h
  have hmonth := month_le_of_validDate h.1
  have hday := (validDate_iff.mp h.1).2
  have hlength := monthLength_le m.year m.month
  have htime := h.2
  simp only [validTime, Bool.and_eq_true, decide_eq_true_eq] at htime
  omega

/-! ## Reading back -/

open GameLog.Time

theorem takeDigits?_digits {width k : Nat} (hw : 0 < width) (h : k < Nat.pow 10 width)
    (rest : List Char) : takeDigits? width (digits width k ++ rest) = some (k, rest) :=
  takeDigits?_paddedText hw h rest

theorem takeYear?_of_isDigit {c : Char} {cs : List Char} (h : c.isDigit = true) :
    takeYear? (c :: cs) = (takeDigits? 4 (c :: cs)).map fun (y, rest) => ((y : Int), rest) := by
  unfold takeYear?
  split
  · rename_i heq
    obtain ⟨rfl, -⟩ := List.cons.inj heq
    cases h
  · rename_i heq
    obtain ⟨rfl, -⟩ := List.cons.inj heq
    cases h
  · rfl

theorem takeYear?_yearText {year : Int} (hlow : -9999 ≤ year) (hhigh : year ≤ 9999)
    (rest : List Char) : takeYear? ((yearText year).toList ++ rest) = some (year, rest) := by
  have hfits := natAbs_year_lt hlow hhigh
  have htake := takeDigits?_digits (by decide) hfits rest
  by_cases hneg : year < 0
  · rw [yearText_of_neg hneg, List.cons_append, takeYear?, htake, Option.map_some]
    dsimp only
    rw [Int.ofNat_natAbs_of_nonpos (by omega), Int.neg_neg]
  · obtain ⟨c, cs, hcs, hdigit⟩ := digits_eq_cons (by decide) hfits
    rw [hcs, List.cons_append] at htake
    rw [yearText_of_nonneg (by omega), hcs, List.cons_append, takeYear?_of_isDigit hdigit, htake,
      Option.map_some]
    dsimp only
    rw [Int.natAbs_of_nonneg (by omega)]

theorem stored?_text (h : m.Storable) : stored? m.text.toList = some m := by
  obtain ⟨hvalid, hlow, hhigh⟩ := h
  obtain ⟨hmonth, hday, hhour, hminute, hsecond⟩ := parts_lt hvalid
  obtain ⟨hdate, htime⟩ := Bool.and_eq_true_iff.mp hvalid
  have two {k : Nat} (hk : k < 100) (rest : List Char) :
      takeDigits? 2 (digits 2 k ++ rest) = some (k, rest) := takeDigits?_digits (by decide) hk rest
  have htwo {k : Nat} (hk : k < 100) : takeDigits? 2 (digits 2 k) = some (k, []) := by
    simpa using two hk []
  simp [toList_text, stored?, takeYear?_yearText hlow hhigh, textBehindYear, takeMonthDay?, takeClock?,
    after?, two hmonth, two hday, two hhour, two hminute, htwo hsecond, hdate, htime]

/-- There are no blanks around the stored form. -/
theorem trimmed_text (h : m.Storable) : trimmed m.text.toList = m.text.toList := by
  have hyear : ∃ c cs, (yearText m.year).toList = c :: cs ∧ isBlank c = false := by
    by_cases hneg : m.year < 0
    · exact ⟨'-', _, yearText_of_neg hneg, by decide⟩
    · obtain ⟨c, cs, hcs, hdigit⟩ := digits_eq_cons (by decide) (natAbs_year_lt h.low h.high)
      exact ⟨c, cs, by rw [yearText_of_nonneg (by omega), hcs], isBlank_of_isDigit hdigit⟩
  have hsecond : ∃ front, m.text.toList = front ++ digits 2 m.second :=
    ⟨(yearText m.year).toList ++ '-' :: (digits 2 m.month ++ '-' :: (digits 2 m.day ++ ' ' ::
      (digits 2 m.hour ++ ':' :: (digits 2 m.minute ++ [':'])))), by
        simp [toList_text, textBehindYear]⟩
  refine trimmed_of_ends (fun c hc => ?_) fun c hc => ?_
  · obtain ⟨d, ds, hds, hblank⟩ := hyear
    rw [toList_text, hds, List.cons_append, List.head?_cons, Option.some_inj] at hc
    rwa [← hc]
  · obtain ⟨front, hfront⟩ := hsecond
    obtain ⟨d, ds, hds, -⟩ := digits_eq_cons (show 0 < 2 by decide)
      (show m.second < Nat.pow 10 2 from (parts_lt h.valid).2.2.2.2)
    rw [hfront, List.getLast?_append_of_ne_nil _ (hds ▸ List.cons_ne_nil d ds)] at hc
    exact isBlank_of_isDigit (isDigit_of_mem_digits (List.mem_of_getLast? hc))

/-- **The stored form of a moment is read as that moment.** -/
theorem read_text (h : m.Storable) : Time.read m.text = .ok m := by
  have hstored := stored?_text h
  have hne : m.text.toList.isEmpty = false := by
    rw [List.isEmpty_eq_false_iff]
    intro hnil
    rw [hnil] at hstored
    cases hstored
  simp only [Time.read, trimmed_text h, hne, hstored, Bool.false_eq_true, if_false]

/-! ## The order of texts -/

/-- Texts that start with equally long parts are ordered by these first. -/
theorem append_lt_append_iff {a b c d : List Char} (h : a.length = b.length) :
    a ++ c < b ++ d ↔ a < b ∨ a = b ∧ c < d := by
  induction a generalizing b with
  | nil =>
    obtain rfl := List.length_eq_zero_iff.mp h.symm
    simp
  | cons x xs ih =>
    cases b with
    | nil => cases h
    | cons y ys =>
      rw [List.length_cons, List.length_cons, Nat.add_right_cancel_iff] at h
      rw [List.cons_append, List.cons_append, List.cons_lt_cons_iff, List.cons_lt_cons_iff, ih h,
        List.cons_eq_cons, and_or_left, or_assoc, and_assoc]

theorem digits_lt_iff {width j k : Nat} (hw : 0 < width) (hj : j < Nat.pow 10 width)
    (hk : k < Nat.pow 10 width) : digits width j < digits width k ↔ j < k := by
  rw [digits, digits, lt_iff_digitsValue_lt (all_isDigit_paddedText width j)
    (all_isDigit_paddedText width k) ((length_digits hw hj).trans (length_digits hw hk).symm),
    digitsValue_paddedText, digitsValue_paddedText]

theorem digits_inj {width j k : Nat} : digits width j = digits width k ↔ j = k := by
  refine ⟨fun h => ?_, congrArg _⟩
  have := congrArg digitsValue h
  rwa [digits, digits, digitsValue_paddedText, digitsValue_paddedText] at this

theorem digits_append_lt_iff {width j k : Nat} (hw : 0 < width) (hj : j < Nat.pow 10 width)
    (hk : k < Nat.pow 10 width) {c d : List Char} :
    digits width j ++ c < digits width k ++ d ↔ j < k ∨ j = k ∧ c < d := by
  rw [append_lt_append_iff ((length_digits hw hj).trans (length_digits hw hk).symm),
    digits_lt_iff hw hj hk, digits_inj]

/-- **The stored forms of moments of the years 0 to 9999 are ordered as their parts are.** -/
theorem text_lt_iff (hm : m.Storable) (hn : n.Storable) (hmyear : 0 ≤ m.year) (hnyear : 0 ≤ n.year) :
    m.text.toList < n.text.toList ↔ m.parts < n.parts := by
  obtain ⟨hmonth, hday, hhour, hminute, hsecond⟩ := parts_lt hm.valid
  obtain ⟨hmonth', hday', hhour', hminute', hsecond'⟩ := parts_lt hn.valid
  have two {j k : Nat} (hj : j < 100) (hk : k < 100) (c d : List Char) :
      digits 2 j ++ c < digits 2 k ++ d ↔ j < k ∨ j = k ∧ c < d :=
    digits_append_lt_iff (by decide) hj hk
  have htwo {j k : Nat} (hj : j < 100) (hk : k < 100) : digits 2 j < digits 2 k ↔ j < k :=
    digits_lt_iff (by decide) hj hk
  rw [toList_text, toList_text, yearText_of_nonneg hmyear, yearText_of_nonneg hnyear,
    digits_append_lt_iff (by decide) (natAbs_year_lt hm.low hm.high) (natAbs_year_lt hn.low hn.high)]
  simp only [textBehindYear, List.cons_lt_cons_self, two hmonth hmonth', two hday hday',
    two hhour hhour', two hminute hminute', htwo hsecond hsecond', parts, List.cons_lt_cons_iff,
    List.not_lt_nil, and_false, or_false]
  omega

/-! ## The order of bytes -/

theorem map_lt_map_iff {α β : Type} [LT α] [LT β] {f : α → β} (hlt : ∀ a b, f a < f b ↔ a < b)
    (hinj : Function.Injective f) {as bs : List α} : as.map f < bs.map f ↔ as < bs := by
  induction as generalizing bs with
  | nil => cases bs <;> simp
  | cons a as ih =>
    cases bs with
    | nil => simp
    | cons b bs =>
      rw [List.map_cons, List.map_cons, List.cons_lt_cons_iff, List.cons_lt_cons_iff, hlt, ih,
        hinj.eq_iff]

/-- The bytes of an ASCII text are its characters. -/
theorem map_toNat_utf8 {s : String} (h : ∀ c ∈ s.toList, c.toNat < 128) :
    (utf8 s).map UInt8.toNat = s.toList.map Char.toNat := by
  rw [utf8, String.toUTF8_eq_toByteArray, ← String.utf8Encode_toList, List.utf8Encode,
    List.toList_data_toByteArray, List.map_flatMap]
  generalize s.toList = cs at h ⊢
  induction cs with
  | nil => rfl
  | cons c cs ih =>
    have hc := h c List.mem_cons_self
    have hsize : c.utf8Size = 1 :=
      Char.utf8Size_eq_one_iff.mpr (UInt32.le_iff_toNat_le.mpr (Nat.le_of_lt_succ hc))
    have hbyte : c.val.toUInt8.toNat = c.toNat := by
      rw [UInt32.toNat_toUInt8]
      exact Nat.mod_eq_of_lt (Nat.lt_trans hc (by decide))
    rw [List.flatMap_cons, ih fun d hd => h d (List.mem_cons_of_mem c hd),
      String.utf8EncodeChar_eq_singleton hsize, List.map_cons, hbyte]
    rfl

theorem utf8_lt_iff {s t : String} (hs : ∀ c ∈ s.toList, c.toNat < 128)
    (ht : ∀ c ∈ t.toList, c.toNat < 128) : utf8 s < utf8 t ↔ s.toList < t.toList := by
  rw [← map_lt_map_iff (f := UInt8.toNat) (fun _ _ => Iff.rfl) fun _ _ => UInt8.toNat_inj.mp,
    map_toNat_utf8 hs, map_toNat_utf8 ht,
    map_lt_map_iff (f := Char.toNat) (fun _ _ => Iff.rfl) fun _ _ => Char.toNat_inj.mp]

theorem ascii_text (m : Moment) : ∀ c ∈ m.text.toList, c.toNat < 128 := by
  have hdigit {width k : Nat} {c : Char} (h : c ∈ digits width k) : c.toNat < 128 := by
    have hlast : c.toNat ≤ 57 := (Char.isDigit_iff_toNat.mp (isDigit_of_mem_digits h)).2
    omega
  have hyear : ∀ c ∈ (yearText m.year).toList, c.toNat < 128 := by
    by_cases hneg : m.year < 0
    · rw [yearText_of_neg hneg]
      exact List.forall_mem_cons.mpr ⟨by decide, fun _ => hdigit⟩
    · rw [yearText_of_nonneg (by omega)]
      exact fun _ => hdigit
  intro c hc
  simp only [toList_text, textBehindYear, List.mem_append, List.mem_cons] at hc
  rcases hc with hc | rfl | hc | rfl | hc | rfl | hc | rfl | hc | rfl | hc
  · exact hyear c hc
  all_goals first | exact hdigit hc | decide

/-- **The bytes of the stored forms are ordered as the moments are**, in the years 0 to 9999. -/
theorem utf8_text_lt_iff (hm : m.Storable) (hn : n.Storable) (hmyear : 0 ≤ m.year)
    (hnyear : 0 ≤ n.year) : utf8 m.text < utf8 n.text ↔ m.seconds < n.seconds := by
  rw [utf8_lt_iff m.ascii_text n.ascii_text, text_lt_iff hm hn hmyear hnyear,
    seconds_lt_iff hm.valid hn.valid]

theorem text_inj (hm : m.Storable) (hn : n.Storable) : m.text = n.text ↔ m = n := by
  refine ⟨fun h => ?_, congrArg text⟩
  have hread := read_text hm
  rw [h, read_text hn] at hread
  exact (Except.ok.inj hread).symm

end Moment

end GameLog
