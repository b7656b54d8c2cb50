/-!
# Whole numbers in text

Numerals are ASCII digits behind an optional sign. A signed numeral has to lie in the range of the
64-bit integers that cells hold.

Main statements:
* `length_paddedText`: a small number is written with exactly the digits asked for;
* `digitsValue_paddedText`, `readInt?_intText`: what is written is read back;
* `lt_iff_digitsValue_lt`: equally many digits are ordered as the numbers that they stand for;
* `inWord_of_readInt?`: a signed numeral that is read lies in the range of 64-bit integers.
-/

namespace GameLog.Text

/-! ## Writing -/

/-- The decimal digits of a number. -/
def natText (n : Nat) : String := String.ofList (Nat.toDigits 10 n)

/-- A whole number with its sign if it is negative. -/
def intText (n : Int) : String :=
  if n < 0 then "-" ++ natText n.natAbs else natText n.natAbs

/-- A number written with at least the given count of digits. -/
def paddedText (width n : Nat) : String :=
  let ds := Nat.toDigits 10 n
  String.ofList (List.replicate (width - ds.length) '0' ++ ds)

/-- A number below a power of ten is written with exactly so many digits. -/
theorem length_paddedText {width n : Nat} (hw : 0 < width) (h : n < Nat.pow 10 width) :
    (paddedText width n).length = width := by
  have := (Nat.length_toDigits_le_iff (b := 10) (by decide) hw).2 h
  simp [paddedText]
  omega

/-! ## Reading -/

/-- The value of a list of ASCII digits. -/
def digitsValue (cs : List Char) : Nat := cs.foldl (fun n c => 10 * n + (c.toNat - 48)) 0

theorem digitsValue_eq (cs : List Char) : digitsValue cs = Nat.ofDigitChars 10 cs 0 := rfl

theorem digitsValue_cons (c : Char) (cs : List Char) :
    digitsValue (c :: cs) = (c.toNat - 48) * Nat.pow 10 cs.length + digitsValue cs := by
  rw [digitsValue_eq, digitsValue_eq, Nat.ofDigitChars_cons, Nat.ofDigitChars_eq_ofDigitChars_zero,
    Nat.mul_zero, Nat.zero_add, Nat.mul_comm]
  rfl

/-- Digits stand for a number below the power of ten of their count. -/
theorem digitsValue_lt {cs : List Char} (h : cs.all Char.isDigit = true) :
    digitsValue cs < Nat.pow 10 cs.length := by
  induction cs with
  | nil => decide
  | cons c cs ih =>
    rw [List.all_cons, Bool.and_eq_true] at h
    have hlast : c.toNat ≤ 57 := (Char.isDigit_iff_toNat.1 h.1).2
    have hfirst : (c.toNat - 48) * Nat.pow 10 cs.length ≤ 9 * Nat.pow 10 cs.length :=
      Nat.mul_le_mul_right _ (by omega)
    have hrest := ih h.2
    have hpow : Nat.pow 10 (cs.length + 1) = Nat.pow 10 cs.length * 10 := rfl
    rw [digitsValue_cons, List.length_cons, hpow]
    omega

/-- The digits of a number stand for it, whatever zeros are in front. -/
theorem digitsValue_paddedText (width n : Nat) : digitsValue (paddedText width n).toList = n := by
  rw [paddedText, String.toList_ofList, digitsValue_eq, Nat.ofDigitChars_append,
    Nat.ofDigitChars_replicate_zero, Nat.mul_zero, Nat.ofDigitChars_ten_toDigits]

theorem all_isDigit_paddedText (width n : Nat) :
    (paddedText width n).toList.all Char.isDigit = true := by
  rw [List.all_eq_true]
  intro c hc
  rw [paddedText, String.toList_ofList, List.mem_append] at hc
  rcases hc with hc | hc
  · rw [List.eq_of_mem_replicate hc]
    decide
  · exact Nat.isDigit_of_mem_toDigits (by decide) (by decide) hc

/-- Equally many digits are ordered as the numbers that they stand for. -/
theorem lt_iff_digitsValue_lt {cs ds : List Char} (hcs : cs.all Char.isDigit = true)
    (hds : ds.all Char.isDigit = true) (hlength : cs.length = ds.length) :
    cs < ds ↔ digitsValue cs < digitsValue ds := by
  induction cs generalizing ds with
  | nil =>
    obtain rfl := List.length_eq_zero_iff.1 hlength.symm
    simp
  | cons c cs ih =>
    cases ds with
    | nil => cases hlength
    | cons d ds =>
      rw [List.all_cons, Bool.and_eq_true] at hcs hds
      rw [List.length_cons, List.length_cons, Nat.add_right_cancel_iff] at hlength
      have hc := digitsValue_lt hcs.2
      have hd := digitsValue_lt hds.2
      rw [hlength] at hc
      rw [List.cons_lt_cons_iff, ih hcs.2 hds.2 hlength, digitsValue_cons, digitsValue_cons, hlength]
      -- a greater digit in front outweighs all that is behind it
      have houtweighs : ∀ {a b x y p : Nat}, a < b → x < p → a * p + x < b * p + y := by
        intro a b x y p hab hx
        have hmul : (a + 1) * p ≤ b * p := Nat.mul_le_mul_right p hab
        rw [Nat.add_mul] at hmul
        omega
      have hzero : 48 ≤ c.toNat := (Char.isDigit_iff_toNat.1 hcs.1).1
      have hzero' : 48 ≤ d.toNat := (Char.isDigit_iff_toNat.1 hds.1).1
      rcases Nat.lt_trichotomy c.toNat d.toNat with hlt | heq | hgt
      · exact iff_of_true (.inl hlt) (houtweighs (by omega) hc)
      · obtain rfl := Char.toNat_inj.1 heq
        simp
      · have hne : c ≠ d := by
          rintro rfl
          exact Nat.lt_irrefl _ hgt
        have hnot : ¬ c < d := fun h => Nat.lt_asymm hgt h
        simpa [hne, hnot] using Nat.le_of_lt (houtweighs (by omega) hd)

/-- The number that ASCII digits, at least one, stand for. -/
def readDigits? (cs : List Char) : Option Nat :=
  if !cs.isEmpty && cs.all Char.isDigit then some (digitsValue cs) else none

/-- Two to the power 63, the first number above the 64-bit integers. -/
def wordEnd : Nat := 0x8000000000000000

/-- Whether a whole number is a 64-bit integer. -/
def inWord (n : Int) : Bool := -(wordEnd : Int) ≤ n && n < wordEnd

/-- The whole number that a signed numeral stands for. -/
def readSigned? : List Char → Option Int
  | '-' :: cs => (readDigits? cs).map fun n => -(n : Int)
  | '+' :: cs => (readDigits? cs).map Int.ofNat
  | cs => (readDigits? cs).map Int.ofNat

/-- The 64-bit integer that a signed numeral stands for. -/
def readInt? (s : String) : Option Int := (readSigned? s.toList).filter inWord

theorem readDigits?_natText (n : Nat) : readDigits? (natText n).toList = some n := by
  have hall : (Nat.toDigits 10 n).all Char.isDigit = true := List.all_eq_true.2 fun c hc =>
    Nat.isDigit_of_mem_toDigits (by decide) (by decide) hc
  have hne : (Nat.toDigits 10 n).isEmpty = false := by simp
  rw [natText, String.toList_ofList, readDigits?, hall, hne, digitsValue_eq,
    Nat.ofDigitChars_ten_toDigits]
  rfl

theorem readSigned?_of_isDigit {c : Char} {cs : List Char} (h : c.isDigit = true) :
    readSigned? (c :: cs) = (readDigits? (c :: cs)).map Int.ofNat := by
  unfold readSigned?
  split
  · rename_i heq
    obtain ⟨rfl, -⟩ := List.cons.inj heq
    cases h
  · rename_i heq
    obtain ⟨rfl, -⟩ := List.cons.inj heq
    cases h
  · rfl

/-- A 64-bit integer is read back from its text. -/
theorem readInt?_intText {n : Int} (h : inWord n = true) : readInt? (intText n) = some n := by
  have hsigned : readSigned? (intText n).toList = some n := by
    unfold intText
    split
    · have hsign : ("-" ++ natText n.natAbs).toList = '-' :: (natText n.natAbs).toList := by simp
      rw [hsign, readSigned?, readDigits?_natText]
      change some (-(n.natAbs : Int)) = some n
      rw [Int.ofNat_natAbs_of_nonpos (by omega), Int.neg_neg]
    · obtain ⟨c, cs, hcs⟩ := List.exists_cons_of_ne_nil (Nat.toDigits_ne_nil (n := n.natAbs) (b := 10))
      have hdigit : c.isDigit = true :=
        Nat.isDigit_of_mem_toDigits (by decide) (by decide) (hcs ▸ List.mem_cons_self)
      have hlist : (natText n.natAbs).toList = c :: cs := by rw [natText, String.toList_ofList, hcs]
      rw [hlist, readSigned?_of_isDigit hdigit, ← hlist, readDigits?_natText, Option.map_some]
      exact congrArg some (Int.natAbs_of_nonneg (by omega))
  rw [readInt?, hsigned, Option.filter_some_pos h]

/-- The number that digits behind an optional plus sign stand for. -/
def readUnsigned? : List Char → Option Nat
  | '+' :: cs => readDigits? cs
  | cs => readDigits? cs

/-- The unsigned 64-bit integer that a numeral stands for. -/
def readWord? (s : String) : Option Nat := (readUnsigned? s.toList).filter (· < 2 * wordEnd)

/-- A numeral that is read is a 64-bit integer. -/
theorem inWord_of_readInt? {s : String} {n : Int} (h : readInt? s = some n) : inWord n = true :=
  (Option.filter_eq_some_iff.1 h).2

end GameLog.Text
