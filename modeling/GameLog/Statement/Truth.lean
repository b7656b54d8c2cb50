import GameLog.Statement.Condition

/-!
# When a condition holds

Whether a condition holds depends on which comparisons and which fixed texts are true. Parts that
say nothing are left out; joined by "and" all others have to hold, joined by "or" one of them, and
where no part says anything the condition holds.

Main statements:
* `holds_of_isEmpty`: what says nothing holds;
* `holds_add`: an extended condition holds as its joint asks of what was there and what is added.
-/

namespace GameLog

/-- Which comparisons and which fixed texts are true. -/
structure Assignment where
  comparison : Comparison → Bool
  fixed : String → Bool

/-- What a joint asks of two parts. -/
def Joint.join : Joint → Bool → Bool → Bool
  | and, x, y => x && y
  | or, x, y => x || y

namespace Condition

mutual

/-- Whether a condition holds under an assignment. -/
def holds (a : Assignment) : Condition → Bool
  | joined .and parts => allHold a parts
  | joined .or parts => areEmpty parts || anyHolds a parts
  | compare c => a.comparison c
  | fixed text => a.fixed text

/-- Whether all conditions of a list hold that say anything. -/
def allHold (a : Assignment) : List Condition → Bool
  | [] => true
  | part :: parts => (part.isEmpty || part.holds a) && allHold a parts

/-- Whether a condition of a list holds that says anything. -/
def anyHolds (a : Assignment) : List Condition → Bool
  | [] => false
  | part :: parts => (!part.isEmpty && part.holds a) || anyHolds a parts

end

/-! ## Conditions that say nothing -/

theorem allHold_of_areEmpty (a : Assignment) {parts : List Condition}
    (h : areEmpty parts = true) : allHold a parts = true := by
  induction parts with
  | nil => rfl
  | cons part parts ih =>
    simp only [areEmpty, Bool.and_eq_true] at h
    simp [allHold, h.1, ih h.2]

theorem anyHolds_of_areEmpty (a : Assignment) {parts : List Condition}
    (h : areEmpty parts = true) : anyHolds a parts = false := by
  induction parts with
  | nil => rfl
  | cons part parts ih =>
    simp only [areEmpty, Bool.and_eq_true] at h
    simp [anyHolds, h.1, ih h.2]

/-- What says nothing holds. -/
theorem holds_of_isEmpty (a : Assignment) {c : Condition} (h : c.isEmpty = true) :
    c.holds a = true := by
  match c with
  | joined .and parts => simpa [holds] using allHold_of_areEmpty a (by simpa [isEmpty] using h)
  | joined .or parts => simp_all [holds, isEmpty]
  | compare _ => simp [isEmpty] at h
  | fixed _ => simp [isEmpty] at h

/-! ## Extending -/

theorem allHold_append (a : Assignment) (p q : List Condition) :
    allHold a (p ++ q) = (allHold a p && allHold a q) := by
  induction p with
  | nil => simp [allHold]
  | cons part parts ih => simp [allHold, ih, Bool.and_assoc]

theorem anyHolds_append (a : Assignment) (p q : List Condition) :
    anyHolds a (p ++ q) = (anyHolds a p || anyHolds a q) := by
  induction p with
  | nil => simp [anyHolds]
  | cons part parts ih => simp [anyHolds, ih, Bool.or_assoc]

theorem areEmpty_append (p q : List Condition) :
    areEmpty (p ++ q) = (areEmpty p && areEmpty q) := by
  induction p with
  | nil => simp [areEmpty]
  | cons part parts ih => simp [areEmpty, ih, Bool.and_assoc]

theorem holds_pair (a : Assignment) (joint : Joint) (c node : Condition) :
    (joined joint [c, node]).holds a =
      if node.isEmpty then c.holds a
      else if c.isEmpty then node.holds a
      else joint.join (c.holds a) (node.holds a) := by
  have hc := fun h : c.isEmpty = true => holds_of_isEmpty a h
  by_cases h : node.isEmpty = true <;> by_cases h' : c.isEmpty = true <;> cases joint <;>
    simp_all [holds, allHold, anyHolds, areEmpty, Joint.join]

/-- An extended condition holds as its joint asks of both sides that say anything. -/
theorem holds_add (a : Assignment) (c : Condition) (joint : Joint) (node : Condition) :
    (c.add joint node).holds a =
      if node.isEmpty then c.holds a
      else if c.isEmpty then node.holds a
      else joint.join (c.holds a) (node.holds a) := by
  match c with
  | joined root parts =>
    simp only [add]
    split
    · rename_i h
      subst h
      have hall := fun h : areEmpty parts = true => allHold_of_areEmpty a h
      have hany := fun h : areEmpty parts = true => anyHolds_of_areEmpty a h
      by_cases hn : node.isEmpty = true <;> by_cases hp : areEmpty parts = true <;> cases root <;>
        simp_all [holds, isEmpty, allHold, anyHolds, areEmpty, allHold_append, anyHolds_append,
          areEmpty_append, Joint.join]
    · split
      · rename_i hp
        have he : (joined root parts).isEmpty = true := by simpa [isEmpty] using hp
        have hc : (joined root parts).holds a = true := holds_of_isEmpty a he
        rw [hc, if_pos he]
        by_cases hn : node.isEmpty = true <;> cases joint <;>
          simp [holds, allHold, anyHolds, areEmpty, hn]
      · exact holds_pair a joint (joined root parts) node
  | compare c => exact holds_pair a joint (compare c) node
  | fixed text => exact holds_pair a joint (fixed text) node

end Condition

end GameLog
