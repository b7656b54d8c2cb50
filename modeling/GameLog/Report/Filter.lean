import GameLog.Report.Sorting

/-!
# Filters on report rows

A token such as `n>=5` or `%.n<0.5` keeps those rows of a report whose slot compares so with a
number. A token whose left side is no slot of the report is no filter, and is left for the terms of
the query.

Main statements:
* `parse?_target`: filters do not read the key;
* `keeps_iff`: what a filter compares.
-/

namespace GameLog

open GameLog.Text

/-- How a slot is compared with a number. -/
inductive FilterOp
  | lt
  | le
  | gt
  | ge
  | eq
  | ne
deriving DecidableEq, Repr

/-- Whether two numbers compare so. Nothing but "unequal" holds of a value that is not a number. -/
def FilterOp.holds (op : FilterOp) (a b : Binary64) : Bool :=
  match op with
  | lt => a.less b
  | le => a.less b || a.same b
  | gt => b.less a
  | ge => b.less a || a.same b
  | eq => a.same b
  | ne => !a.same b

/-- What an operator asks of the places of two numbers. -/
def FilterOp.Asks (op : FilterOp) (a b : Int) : Prop :=
  match op with
  | lt => a < b
  | le => a ≤ b
  | gt => b < a
  | ge => b ≤ a
  | eq => a = b
  | ne => a ≠ b

theorem FilterOp.holds_iff_asks (op : FilterOp) {a b : Binary64} (ha : a.isNaN = false)
    (hb : b.isNaN = false) : op.holds a b = true ↔ op.Asks a.level b.level := by
  cases op <;> simp [holds, Asks, Binary64.less, Binary64.same, ha, hb] <;> omega

theorem FilterOp.holds_of_isNaN (op : FilterOp) {a b : Binary64}
    (h : (a.isNaN || b.isNaN) = true) : op.holds a b = true ↔ op = .ne := by
  rcases Bool.or_eq_true_iff.mp h with h | h <;>
    cases op <;> simp [holds, Binary64.less, Binary64.same, h]

/-- A filter on report rows. -/
structure RowFilter where
  field : SortField
  op : FilterOp
  value : Binary64
deriving DecidableEq, Repr

namespace RowFilter

/-! ## Reading -/

/-- The operators of filters; of two that fit, the first one here is tried first. -/
def operators : List (List Char × FilterOp) :=
  [(['<', '='], .le), (['>', '='], .ge), (['!', '='], .ne), (['<'], .lt), (['>'], .gt),
    (['='], .eq)]

/-- The operator in front of a text, and the text behind it, which is not empty. -/
def takeOperator? (cs : List Char) : Option (FilterOp × List Char) :=
  operators.findSome? fun (token, op) =>
    if token.isPrefixOf cs && token.length < cs.length then some (op, cs.drop token.length)
    else none

/-- The parts of a text around its first operator, of which the left one has at least so many
characters. -/
def splitAt? (least : Nat) (left : List Char) :
    List Char → Option (List Char × FilterOp × List Char)
  | [] => none
  | c :: cs =>
    match if least ≤ left.length then takeOperator? (c :: cs) else none with
    | some (op, right) => some (left.reverse, op, right)
    | none => splitAt? least (c :: left) cs

/-- The length of a selector in front of a text. -/
def selectorLength (cs : List Char) : Nat :=
  if ['d', 'e', 'n', '.'].isPrefixOf cs || ['n', 'u', 'm', '.'].isPrefixOf cs then 4
  else if ['%', '.'].isPrefixOf cs then 2
  else 0

/-- The left side, the operator and the right side of a token without blanks. An operator right
behind a selector is taken only if there is no other. -/
def split? (cs : List Char) : Option (List Char × FilterOp × List Char) :=
  if cs.any isBlank then none
  else (splitAt? (selectorLength cs + 1) [] cs).or (splitAt? 1 [] cs)

/-- Whether filters may read a slot of a report with these extra columns. -/
def readable (extra : ExtraList) : SortTarget → Bool
  | .key => false
  | .count => true
  | .extra _ => extra.isAggregate

/-- The filter that a token is. -/
def parse? (extra : ExtraList) (token : String) : Option RowFilter := do
  let (left, op, right) ← split? (trimmed token.toList)
  let field ← (SortField.parse extra (String.ofList left)).toOption
  if readable extra field.target then
    (Binary64.read? (String.ofList right)).map fun value => ⟨field, op, value⟩
  else none

/-- Filters do not read the key. -/
theorem parse?_target {extra : ExtraList} {token : String} {f : RowFilter}
    (h : parse? extra token = some f) : f.field.target ≠ .key := by
  simp only [parse?, Option.bind_eq_bind, Option.bind_eq_some_iff] at h
  obtain ⟨⟨left, op, right⟩, -, field, -, h⟩ := h
  split at h
  · rename_i hr
    obtain ⟨value, -, rfl⟩ := Option.map_eq_some_iff.1 h
    intro hk
    simp only at hk
    rw [hk] at hr
    cases hr
  · cases h

/-! ## Applying -/

/-- Whether a filter keeps a row. -/
def keeps (f : RowFilter) (row : RowValues) : Bool :=
  f.op.holds (f.field.value row).asNumber f.value

/-- A filter keeps the rows whose slot, read as a number, stands to its number as its operator asks. If
one of them is not a number, it keeps the row exactly if it asks for unequal ones. -/
theorem keeps_iff (f : RowFilter) (row : RowValues) :
    f.keeps row = true ↔
      if ((f.field.value row).asNumber.isNaN || f.value.isNaN) = true then f.op = .ne
      else f.op.Asks (f.field.value row).asNumber.level f.value.level := by
  unfold keeps
  split
  · rename_i h
    exact f.op.holds_of_isNaN h
  · rename_i h
    obtain ⟨ha, hb⟩ := Bool.or_eq_false_iff.mp (Bool.eq_false_iff.mpr h)
    exact f.op.holds_iff_asks ha hb

end RowFilter

end GameLog
