import GameLog.Statement.Truth

/-!
# Extending conditions

The condition of a query grows step by step: each step puts a node under a joint. The tree that comes
of it depends on the root: a root with this joint gets one more part, a root that says nothing is
replaced, and any other root becomes a part itself. What a condition *says* does not depend on it. It
says nothing (`none`), or it says that it holds or not, and conditions that say nothing are neutral
under both joints.

Main statements:
* `add_eq_joined`: the three ways of extending a root have one form;
* `said_joined`, `said_add`: what is said is joined as the joint asks;
* `add_keeps_parts`: an extended condition has the values, the tables and the meaning of both sides.
-/

namespace GameLog

/-! ## Joining what is said -/

namespace Joint

instance (joint : Joint) : Std.Associative joint.join where
  assoc x y z := by
    cases joint
    · exact Bool.and_assoc x y z
    · exact Bool.or_assoc x y z

/-- What a joint asks of two sides that may say nothing. -/
def joinSaid (joint : Joint) : Option Bool → Option Bool → Option Bool := Option.merge joint.join

instance (joint : Joint) : Std.Associative joint.joinSaid :=
  inferInstanceAs (Std.Associative (Option.merge joint.join))

@[simp] theorem joinSaid_none_left (joint : Joint) (said : Option Bool) :
    joint.joinSaid none said = said := by cases said <;> rfl

@[simp] theorem joinSaid_none_right (joint : Joint) (said : Option Bool) :
    joint.joinSaid said none = said := by cases said <;> rfl

@[simp] theorem joinSaid_some (joint : Joint) (x y : Bool) :
    joint.joinSaid (some x) (some y) = some (joint.join x y) := rfl

theorem foldr_joinSaid (joint : Joint) (all : List (Option Bool)) (last : Option Bool) :
    all.foldr joint.joinSaid last = joint.joinSaid (all.foldr joint.joinSaid none) last := by
  have hassoc : all.foldr joint.joinSaid (joint.joinSaid none last) =
      joint.joinSaid (all.foldr joint.joinSaid none) last := List.foldr_assoc
  rwa [joinSaid_none_left] at hassoc

end Joint

namespace Condition

/-! ## What is said -/

/-- **What a condition says**: nothing, or whether it holds. -/
def said (a : Assignment) (c : Condition) : Option Bool :=
  if c.isEmpty then none else some (c.holds a)

theorem said_of_isEmpty (a : Assignment) {c : Condition} (h : c.isEmpty = true) :
    c.said a = none := if_pos h

theorem said_of_not_isEmpty (a : Assignment) {c : Condition} (h : c.isEmpty = false) :
    c.said a = some (c.holds a) := by
  rw [said, h]
  rfl

/-- A first part that says something is joined to the others. -/
theorem said_joined_cons (a : Assignment) (joint : Joint) (part : Condition)
    (parts : List Condition) :
    (joined joint (part :: parts)).said a =
      joint.joinSaid (part.said a) ((joined joint parts).said a) := by
  cases hpart : part.isEmpty with
  | true =>
    have hempty : (joined joint (part :: parts)).isEmpty = (joined joint parts).isEmpty := by
      simp [isEmpty, areEmpty, hpart]
    have hholds : (joined joint (part :: parts)).holds a = (joined joint parts).holds a := by
      cases joint <;> simp [holds, allHold, anyHolds, areEmpty, hpart]
    rw [said_of_isEmpty a hpart, Joint.joinSaid_none_left, said, said, hempty, hholds]
  | false =>
    have hempty : (joined joint (part :: parts)).isEmpty = false := by
      simp [isEmpty, areEmpty, hpart]
    rw [said_of_not_isEmpty a hempty, said_of_not_isEmpty a hpart]
    cases hparts : areEmpty parts with
    | true =>
      have hnone : (joined joint parts).isEmpty = true := by simpa [isEmpty] using hparts
      rw [said_of_isEmpty a hnone, Joint.joinSaid_none_right]
      cases joint <;> simp [holds, allHold, anyHolds, areEmpty, hpart,
        allHold_of_areEmpty a hparts, anyHolds_of_areEmpty a hparts]
    | false =>
      have hsome : (joined joint parts).isEmpty = false := by simpa [isEmpty] using hparts
      rw [said_of_not_isEmpty a hsome, Joint.joinSaid_some]
      cases joint <;> simp [holds, allHold, anyHolds, areEmpty, hpart, hparts, Joint.join]

/-- **Joined parts say together what the joint asks of each.** -/
theorem said_joined (a : Assignment) (joint : Joint) (parts : List Condition) :
    (joined joint parts).said a = (parts.map (said a)).foldr joint.joinSaid none := by
  induction parts with
  | nil => exact said_of_isEmpty a rfl
  | cons part parts ih => rw [said_joined_cons, ih, List.map_cons, List.foldr_cons]

/-! ## One step -/

/-- The parts that a condition has under a joint before it is extended. -/
def partsUnder (joint : Joint) : Condition → List Condition
  | joined root parts =>
    if root = joint then parts else if areEmpty parts then [] else [joined root parts]
  | compare c => [compare c]
  | fixed text => [fixed text]

/-- **An extended condition has its joint at the root**, and the node is its last part. -/
theorem add_eq_joined (c : Condition) (joint : Joint) (node : Condition) :
    c.add joint node = joined joint (c.partsUnder joint ++ [node]) := by
  cases c with
  | joined root parts =>
    rw [add, partsUnder]
    split
    · rename_i hroot
      rw [hroot]
    · split <;> rfl
  | compare c => rfl
  | fixed text => rfl

/-- The parts under a joint say together what the condition says. -/
theorem said_partsUnder (a : Assignment) (joint : Joint) (c : Condition) :
    (joined joint (c.partsUnder joint)).said a = c.said a := by
  have hone (c : Condition) : (joined joint [c]).said a = c.said a := by
    rw [said_joined_cons, said_of_isEmpty a (c := joined joint []) rfl, Joint.joinSaid_none_right]
  cases c with
  | joined root parts =>
    rw [partsUnder]
    split
    · rename_i hroot
      rw [hroot]
    · split
      · rename_i hparts
        rw [said_of_isEmpty a rfl, said_of_isEmpty a (by simpa [isEmpty] using hparts)]
      · exact hone (joined root parts)
  | compare c => exact hone (compare c)
  | fixed text => exact hone (fixed text)

/-- **What is said by both sides is joined as the joint asks.** -/
theorem said_add (a : Assignment) (c : Condition) (joint : Joint) (node : Condition) :
    (c.add joint node).said a = joint.joinSaid (c.said a) (node.said a) := by
  rw [add_eq_joined, said_joined, List.map_append, List.foldr_append, Joint.foldr_joinSaid,
    ← said_joined, said_partsUnder]
  exact congrArg _ (Joint.joinSaid_none_right joint (node.said a))

theorem isEmpty_add (c : Condition) (joint : Joint) (node : Condition) :
    (c.add joint node).isEmpty = (c.isEmpty && node.isEmpty) := by
  have hnone (c : Condition) : c.isEmpty = (c.said ⟨fun _ => true, fun _ => true⟩).isNone := by
    cases h : c.isEmpty with
    | true => rw [said_of_isEmpty _ h, Option.isNone_none]
    | false => rw [said_of_not_isEmpty _ h, Option.isNone_some]
  rw [hnone (c.add joint node), said_add, hnone c, hnone node]
  cases c.said _ <;> cases node.said _ <;> rfl

/-! ## Both sides -/

/-- **An extended condition keeps both of its sides.** Its values are those of the condition and then
those of the node, it reads the tables that either of them reads, and what it says is what the joint
asks of both: it holds as the joint of both sides does, or as the only side that says something. -/
theorem add_keeps_parts (c : Condition) (joint : Joint) (node : Condition) :
    (c.add joint node).values = c.values ++ node.values ∧
    (∀ table, (c.add joint node).references table = true ↔
      c.references table = true ∨ node.references table = true) ∧
    ((c.add joint node).isEmpty = true ↔ c.isEmpty = true ∧ node.isEmpty = true) ∧
    (∀ a, (c.add joint node).said a = joint.joinSaid (c.said a) (node.said a)) ∧
    ∀ a, (c.add joint node).holds a =
      if node.isEmpty then c.holds a
      else if c.isEmpty then node.holds a
      else joint.join (c.holds a) (node.holds a) := by
  refine ⟨values_add c joint node, fun table => ?_, ?_, fun a => said_add a c joint node,
    fun a => holds_add a c joint node⟩
  · rw [references_add, Bool.or_eq_true]
  · rw [isEmpty_add, Bool.and_eq_true]

end Condition

end GameLog
