import GameLog.Cell
import GameLog.Statement.Column

/-!
# Conditions on rows

A condition is a tree of comparisons, joined by "and" or "or". Joined parts with no comparison in
them say nothing and are left out of the text. The text has a question mark for each compared value,
and the values are listed beside it in the same order.

Main statements:
* `values_add`: extending a condition appends the values of what is added;
* `references_add`: it reads the tables that either part reads.
-/

namespace GameLog

/-! ## Comparisons -/

/-- How a column is compared with a value. -/
inductive Comparator
  | eq
  | ne
  | lt
  | gt
  | le
  | ge
  | like
  | notLike
deriving DecidableEq, Repr

namespace Comparator

/-- The text of a comparator in statements. -/
def text : Comparator → String
  | eq => "="
  | ne => "!="
  | lt => "<"
  | gt => ">"
  | le => "<="
  | ge => ">="
  | like => "LIKE"
  | notLike => "NOT LIKE"

/-- Whether the value is a pattern. -/
def isPattern : Comparator → Bool
  | like => true
  | notLike => true
  | _ => false

end Comparator

/-- A column compared with a value. -/
structure Comparison where
  column : Column
  comparator : Comparator
  value : Cell
deriving DecidableEq, Repr

/-- The text of a comparison, with a question mark for its value. -/
def Comparison.text (c : Comparison) : String := c.column.text ++ " " ++ c.comparator.text ++ " ?"

/-! ## Trees -/

/-- How the parts of a condition are joined. -/
inductive Joint
  | and
  | or
deriving DecidableEq, Repr

/-- The text of a joint. -/
def Joint.text : Joint → String
  | and => "AND"
  | or => "OR"

/-- A condition on rows. -/
inductive Condition
  | joined (joint : Joint) (parts : List Condition)
  | compare (c : Comparison)
  | fixed (text : String)
deriving Repr

namespace Condition

/-- The condition that says nothing. -/
def always : Condition := joined .and []

instance : Inhabited Condition := ⟨always⟩

mutual

/-- Whether a condition says nothing: there is no comparison in it and no fixed text. -/
def isEmpty : Condition → Bool
  | joined _ parts => areEmpty parts
  | compare _ => false
  | fixed _ => false

/-- Whether all conditions of a list say nothing. -/
def areEmpty : List Condition → Bool
  | [] => true
  | part :: parts => part.isEmpty && areEmpty parts

end

/-- The joint of the root. -/
def joint? : Condition → Option Joint
  | joined joint _ => some joint
  | compare _ => none
  | fixed _ => none

/-- A condition extended by another one. It becomes the last part of a root with this joint; any
other root becomes the first of two parts, unless it says nothing. -/
def add (c : Condition) (joint : Joint) (node : Condition) : Condition :=
  match c with
  | joined root parts =>
    if root = joint then joined root (parts ++ [node])
    else if areEmpty parts then joined joint [node]
    else joined joint [joined root parts, node]
  | compare _ => joined joint [c, node]
  | fixed _ => joined joint [c, node]

mutual

/-- The comparisons of a condition from left to right. -/
def comparisons : Condition → List Comparison
  | joined _ parts => comparisonsIn parts
  | compare c => [c]
  | fixed _ => []

/-- The comparisons of a list of conditions from left to right. -/
def comparisonsIn : List Condition → List Comparison
  | [] => []
  | part :: parts => part.comparisons ++ comparisonsIn parts

end

/-- The compared values from left to right. -/
def values (c : Condition) : List Cell := c.comparisons.map (·.value)

/-- Whether a condition reads a column of a table by its short name. -/
def references (table : String) (c : Condition) : Bool := c.comparisons.any (·.column.isOf table)

/-! ## Text -/

/-- A part of the text of a condition. -/
inductive Token
  | comparison (column : Column) (comparator : Comparator)
  | fixed (text : String)
  | joint (joint : Joint)
  | opening
  | closing
deriving DecidableEq, Repr

/-- The text of a token. -/
def Token.text : Token → String
  | comparison column comparator => column.text ++ " " ++ comparator.text ++ " ?"
  | fixed text => text
  | joint j => " " ++ j.text ++ " "
  | opening => "("
  | closing => ")"

mutual

/-- The text of a condition by its tokens. Parts that say nothing are left out, and joined parts
stand in parentheses. -/
def tokens : Condition → List Token
  | joined joint parts => List.intercalate [.joint joint] (partTokens parts)
  | compare c => [.comparison c.column c.comparator]
  | fixed text => [.fixed text]

/-- The tokens of each part that says something. -/
def partTokens : List Condition → List (List Token)
  | [] => []
  | part :: parts =>
    if part.isEmpty then partTokens parts
    else if part.joint?.isSome then
      (.opening :: part.tokens ++ [.closing]) :: partTokens parts
    else part.tokens :: partTokens parts

end

/-- The text of a condition. -/
def text (c : Condition) : String := String.join (c.tokens.map Token.text)

/-! ## Extending -/

theorem comparisonsIn_append (a b : List Condition) :
    comparisonsIn (a ++ b) = comparisonsIn a ++ comparisonsIn b := by
  induction a with
  | nil => rfl
  | cons part parts ih => simp [comparisonsIn, ih]

mutual

theorem comparisons_of_isEmpty : (c : Condition) → c.isEmpty = true → c.comparisons = []
  | joined _ parts, h => by
    simpa [comparisons] using comparisonsIn_of_areEmpty parts (by simpa [isEmpty] using h)
  | compare _, h => by simp [isEmpty] at h
  | fixed _, _ => rfl

theorem comparisonsIn_of_areEmpty : (parts : List Condition) → areEmpty parts = true →
    comparisonsIn parts = []
  | [], _ => rfl
  | part :: parts, h => by
    simp only [areEmpty, Bool.and_eq_true] at h
    simp [comparisonsIn, comparisons_of_isEmpty part h.1, comparisonsIn_of_areEmpty parts h.2]

end

/-- Extending a condition appends the comparisons of what is added. -/
theorem comparisons_add (c : Condition) (joint : Joint) (node : Condition) :
    (c.add joint node).comparisons = c.comparisons ++ node.comparisons := by
  cases c with
  | joined root parts =>
    simp only [add]
    split
    · simp [comparisons, comparisonsIn_append, comparisonsIn]
    · split
      · rename_i h
        simp [comparisons, comparisonsIn, comparisonsIn_of_areEmpty parts h]
      · simp [comparisons, comparisonsIn]
  | compare c => simp [add, comparisons, comparisonsIn]
  | fixed text => simp [add, comparisons, comparisonsIn]

/-- Extending a condition appends the values of what is added. -/
theorem values_add (c : Condition) (joint : Joint) (node : Condition) :
    (c.add joint node).values = c.values ++ node.values := by
  simp [values, comparisons_add]

/-- An extended condition reads the tables that either part reads. -/
theorem references_add (table : String) (c : Condition) (joint : Joint) (node : Condition) :
    (c.add joint node).references table = (c.references table || node.references table) := by
  simp [references, comparisons_add]

end Condition

end GameLog
