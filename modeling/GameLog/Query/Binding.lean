import GameLog.Catalog.Kind
import GameLog.Query.Error
import GameLog.Statement.Condition
import GameLog.Text.Numeral

/-!
# Binding values

The value of a term is bound as the kind of its field asks: a number, a truth value as one or zero,
or the text as it is. A pattern is bound as a text whatever the kind; without a wildcard in it, it
is looked for anywhere in the values.
Main statement: `bind_error`, a value that does not bind is reported by its whole term.
-/

namespace GameLog

open GameLog.Text

/-! ## Patterns -/

/-- Whether a character of a pattern stands for others. -/
def isWildcard (c : Char) : Bool := c == '*' || c == '?' || c == '%' || c == '_'

/-- A wildcard in the form that stores know. -/
def storeWildcard (c : Char) : Char := if c = '*' then '%' else if c = '?' then '_' else c

/-- The pattern for a store that a pattern of the query language means. -/
def likePattern (raw : List Char) : List Char :=
  if raw.any isWildcard then raw.map storeWildcard else '%' :: raw ++ ['%']

/-! ## Truth values -/

/-- The words for truth. -/
def yesWords : List String := ["y", "yes", "true", "1"]

/-- The words for falsehood. -/
def noWords : List String := ["n", "no", "false", "0"]

/-- The truth value of a word, in any letter case. -/
def readFlag? (raw : String) : Option Bool :=
  let word := lower (trim raw)
  if yesWords.contains word then some true
  else if noWords.contains word then some false
  else none

/-- A truth value in a store. -/
def flagCell (flag : Bool) : Cell := .integer (if flag then 1 else 0)

/-! ## Binding -/

/-- The cell that a text means as a value of a kind. -/
def bindValue? (kind : Kind) (raw : String) : Option Cell :=
  match kind with
  | .integer => (readInt? (trim raw)).map .integer
  | .boolean => (readFlag? raw).map flagCell
  | .date => some (.text raw)
  | .text => some (.text raw)

/-- A column compared with the value that a text means. -/
def Comparison.bind (column : Column) (comparator : Comparator) (kind : Kind)
    (raw clause : String) : Except QueryError Comparison :=
  if comparator.isPattern then
    .ok ⟨column, comparator, .text (String.ofList (likePattern raw.toList))⟩
  else match bindValue? kind raw with
    | some value => .ok ⟨column, comparator, value⟩
    | none => .error (.malformed clause)

/-- A value that does not bind is reported by its whole term. -/
theorem Comparison.bind_error {column : Column} {comparator : Comparator} {kind : Kind}
    {raw clause : String} {e : QueryError}
    (h : Comparison.bind column comparator kind raw clause = .error e) : e = .malformed clause := by
  unfold Comparison.bind at h
  split at h
  · simp at h
  · split at h <;> simp_all

end GameLog
