import GameLog.Query.Grouping
import GameLog.Report.SortValue

/-!
# Sorting reports

A clause such as `o=-n,num.max(turn)` asks for sort conditions on the slots of report rows: the key,
the count or an extra column, and of several queries the first slot, the second one or their ratio.
Conditions are applied in turn until one tells two rows apart.

Main statements:
* `value_single`, `value_several`: which slots a part reads, of one query and of several;
* `compareRows_append`: conditions are applied in turn.
-/

namespace GameLog

open GameLog.Text

/-! ## Slots -/

/-- What a slot shows. -/
inductive SortTarget
  | key
  | count
  | extra (index : Nat)
deriving DecidableEq, Repr

/-- Which slot is read, of as many slots as there are queries. -/
inductive RatioPart
  | denominator
  | numerator
  | ratio
deriving DecidableEq, Repr

/-- A slot of report rows and the word it was named by. -/
structure SortField where
  target : SortTarget
  part : RatioPart
  label : String
deriving DecidableEq, Repr

namespace SortField

/-- The key of a row. -/
def key : SortField := ⟨.key, .numerator, "."⟩

/-- The count of a row. -/
def count : SortField := ⟨.count, .numerator, "n"⟩

/-- An extra column. -/
def extra (index : Nat) (label : String) : SortField := ⟨.extra index, .numerator, lower label⟩

/-! ## Reading -/

/-- The part that a selector such as `den.` asks for, and the text behind it. -/
def takePart (cs : List Char) : RatioPart × List Char :=
  match splitFirst '.' cs with
  | some (selector, rest) =>
    if selector = ['d', 'e', 'n'] then (.denominator, rest)
    else if selector = ['n', 'u', 'm'] then (.numerator, rest)
    else if selector = ['%'] then (.ratio, rest)
    else (.numerator, cs)
  | none => (.numerator, cs)

/-- The target that a word names. -/
def target? (extra : ExtraList) (word : String) : Option SortTarget :=
  if word = "n" then some .count else (extra.place? word).map .extra

/-- The slot that a word names: a point for the key, a percent sign for the ratio of the counts, or
a selector and the count or the label of an extra column. -/
def parse (extra : ExtraList) (raw : String) : Except QueryError SortField :=
  let label := trim raw
  if label = "." then .ok key
  else
    let (part, word) := takePart (if label = "%" then ['%', '.', 'n'] else label.toList)
    match target? extra (lower (String.ofList word)) with
    | some target => .ok ⟨target, part, label⟩
    | none => .error (.unknownSort (lower (String.ofList word)))

/-! ## Values -/

/-- The quotient of two values, zero if the divisor is zero. -/
def ratio (den num : Binary64) : Binary64 := if den.isZero then .zero false else num.div den

/-- The part of the slots of several queries. -/
def partOf (part : RatioPart) (values : List SortValue) : SortValue :=
  match part with
  | .denominator => (values[0]?).getD .missing
  | .numerator => (values[1]?).getD .missing
  | .ratio =>
    let slot (i : Nat) := ((values[i]?).map SortValue.asNumber).getD (.zero false)
    .number (ratio (slot 0) (slot 1))

/-- The slots that a target reads. -/
def slots (target : SortTarget) (row : RowValues) : List SortValue :=
  match target with
  | .key => [row.key]
  | .count => row.counts
  | .extra index => (row.extras[index]?).getD []

/-- The value of a slot of a row. A single slot is read whatever part is asked for. -/
def value (f : SortField) (row : RowValues) : SortValue :=
  match slots f.target row with
  | [value] => value
  | values => partOf f.part values

/-- With one query every part reads the one slot. -/
theorem value_single {f : SortField} {row : RowValues} {v : SortValue}
    (h : slots f.target row = [v]) : f.value row = v := by
  simp [value, h]

/-- With several queries a part reads the first slot, the second one, or the second over the first. -/
theorem value_several {f : SortField} {row : RowValues} {v w : SortValue} {rest : List SortValue}
    (h : slots f.target row = v :: w :: rest) :
    f.value row = match f.part with
      | .denominator => v
      | .numerator => w
      | .ratio => .number (ratio v.asNumber w.asNumber) := by
  simp only [value, h]
  cases f.part <;> rfl

end SortField

/-! ## Conditions -/

/-- A sort condition. Larger values come first unless it is reversed. -/
structure SortCondition where
  field : SortField
  reverse : Bool
deriving DecidableEq, Repr

namespace SortCondition

/-- The condition that an item names; a minus sign in front reverses it. -/
def parse (extra : ExtraList) (item : String) : Except QueryError SortCondition := do
  let (direction, rest) := takeSign (trimmed item.toList)
  return ⟨← SortField.parse extra (String.ofList rest), direction == .ascending⟩

/-- How a condition orders two rows. -/
def compare (c : SortCondition) (a b : RowValues) : Ordering :=
  if c.reverse then (c.field.value a).compare (c.field.value b)
  else (c.field.value b).compare (c.field.value a)

end SortCondition

/-- How conditions order two rows: the first one that tells them apart counts. -/
def compareRows : List SortCondition → RowValues → RowValues → Ordering
  | [], _, _ => .eq
  | c :: cs, a, b => (c.compare a b).then (compareRows cs a b)

/-- Conditions are applied in turn. -/
theorem compareRows_append (cs ds : List SortCondition) (a b : RowValues) :
    compareRows (cs ++ ds) a b = (compareRows cs a b).then (compareRows ds a b) := by
  induction cs with
  | nil => rfl
  | cons c cs ih => simp only [List.cons_append, compareRows, ih, Ordering.then_assoc]

/-! ## Clauses -/

/-- The text behind the letter and the equals sign of a sort clause, which has no line break. -/
def sortBody? (clause : String) : Option (List Char) :=
  (clauseBody? ['o', 'O'] (trimmed clause.toList)).filter fun body => !body.contains '\n'

/-- Whether a token is a sort clause. -/
def isSortClause (token : String) : Bool := (sortBody? token).isSome

/-- The conditions that a sort clause asks for. Empty items are left out, but not all may be. -/
def parseSorts (extra : ExtraList) (clause : String) : Except QueryError (List SortCondition) :=
  match sortBody? clause with
  | some body =>
    if body.isEmpty then .error (.malformed clause)
    else (((commaParts body).map trimmed).filter (!·.isEmpty)).mapM fun item =>
      SortCondition.parse extra (String.ofList item)
  | none => .error (.malformed clause)

/-! ## Conditions used if none are asked for -/

/-- One condition for each extra column, in order, each in the direction of its column. -/
def ExtraList.defaultSorts (l : ExtraList) : List SortCondition :=
  l.fields.mapIdx fun index f =>
    ⟨if f.projection = .count then .count else .extra index f.label, f.direction == .ascending⟩

/-- By count in the direction of the first field, or in the order of time if that is a date. -/
def GroupList.defaultSort (l : GroupList) : SortCondition :=
  if l.first.kind = some .date then ⟨.key, l.first.direction.flip == .ascending⟩
  else ⟨.count, l.first.direction == .ascending⟩

end GameLog
