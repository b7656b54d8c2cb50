import GameLog.Report.Row

/-!
# Keys as they are spelled

The key of a group is spelled as the texts of its cells in lower case, with a separator between them. It is
made the other way around: the texts are joined, and the lower case is taken of the whole. A sigma is
written in one of two ways there, by the letters on both sides of it, so that the lower case of a text may
depend on the texts beside it. The separator prevents this: it is not cased, and not passed over in looking
for a letter that is.

Main statements:
* `lowerCase_joinWith`: the separator parts the lower case of a key as it parts the key;
* `mergeKey_eq`: the key of a report row is spelled by its cells.
-/

namespace GameLog

open GameLog.Text ReportRow

/-- The key of group cells as it is spelled: their texts in lower case, with two at signs between them. -/
def keyText (cells : List Cell) : String := joinWith "@@" (cells.map fun cell => lowerCase cell.shown)

/-- The texts of the group cells of a row, in lower case. -/
def groupTexts (groups : Nat) (row : Row) : List String :=
  (row.tail.take groups).map fun cell => lowerCase cell.shown

/-! ## Lower case of joined texts -/

/-- A character that parts words: it is not cased, and not passed over in looking for one that is. -/
def PartsWords (c : Char) : Prop :=
  cased.mem c.toNat = false ∧ caseIgnorable.mem c.toNat = false

instance (c : Char) : Decidable (PartsWords c) := inferInstanceAs (Decidable (_ ∧ _))

theorem startsCased_cons (c : Char) (cs : List Char) :
    startsCased (c :: cs) =
      if caseIgnorable.mem c.toNat then startsCased cs else cased.mem c.toNat := by
  unfold startsCased
  rw [List.find?_cons]
  cases caseIgnorable.mem c.toNat <;> rfl

theorem startsCased_append {c : Char} (h : PartsWords c) (as bs : List Char) :
    startsCased (as ++ c :: bs) = startsCased as := by
  induction as with
  | nil =>
    rw [List.nil_append, startsCased_cons, h.1, h.2]
    rfl
  | cons a as ih => rw [List.cons_append, startsCased_cons, startsCased_cons, ih]

theorem lowerFrom_congr {before before' : List Char} (h : startsCased before = startsCased before')
    (cs : List Char) : lowerFrom before cs = lowerFrom before' cs := by
  induction cs generalizing before before' with
  | nil => rfl
  | cons c cs ih =>
    have hnext : startsCased (c :: before) = startsCased (c :: before') := by
      rw [startsCased_cons, startsCased_cons, h]
    rw [lowerFrom, lowerFrom, ih hnext, h]

/-- **A character that parts words parts their lower case.** -/
theorem lowerFrom_append {c : Char} (h : PartsWords c) (before as bs : List Char) :
    lowerFrom before (as ++ c :: bs) =
      lowerFrom before as ++ (lowerFrom [] [c] ++ lowerFrom [] bs) := by
  induction as generalizing before with
  | nil =>
    have hsigma : (c.toNat == 0x3A3) = false := by
      refine beq_eq_false_iff_ne.mpr fun hc => ?_
      have hcased := h.1
      rw [hc] at hcased
      exact absurd hcased (by decide)
    have hbehind : startsCased (c :: before) = startsCased [] := startsCased_append h [] before
    simp only [List.nil_append, lowerFrom, hsigma, Bool.false_eq_true, if_false, List.append_nil,
      lowerFrom_congr hbehind]
  | cons a as ih =>
    rw [List.cons_append, lowerFrom, lowerFrom, ih, startsCased_append h, List.append_assoc]

theorem lowerCase_append_separator (a b : String) :
    lowerCase (a ++ keySeparator ++ b) = lowerCase a ++ keySeparator ++ lowerCase b := by
  have hat : PartsWords '@' := by decide +kernel
  have hsame : lowerFrom [] ['@'] = ['@'] := by decide
  have hfirst := lowerFrom_append hat [] a.toList ('@' :: b.toList)
  have hsecond := lowerFrom_append hat [] [] b.toList
  rw [hsame] at hfirst hsecond
  rw [List.nil_append] at hsecond
  rw [hsecond] at hfirst
  refine String.toList_inj.mp ?_
  simpa [lowerCase, keySeparator, lowerFrom] using hfirst

/-- **The separator parts the lower case of a key as it parts the key.** -/
theorem lowerCase_joinWith (texts : List String) :
    lowerCase (joinWith keySeparator texts) = joinWith keySeparator (texts.map lowerCase) := by
  induction texts with
  | nil => rfl
  | cons text texts ih =>
    cases texts with
    | nil => simp [joinWith]
    | cons next texts =>
      unfold joinWith at ih ⊢
      rw [String.intercalate_cons_cons, lowerCase_append_separator, ih]
      simp only [List.map_cons, String.intercalate_cons_cons]

/-- **The key of a report row is spelled by its cells.** -/
theorem mergeKey_eq (r : ReportRow) : r.mergeKey = keyText r.cells := by
  rw [mergeKey, lowerCase_joinWith, List.map_map]
  rfl

end GameLog
