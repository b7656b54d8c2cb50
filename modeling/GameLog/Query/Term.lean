import GameLog.Query.Binding
import GameLog.Query.Token
import GameLog.Scope

/-!
# Terms

What is left of a query are terms such as `xl>=10`. Terms beside each other hold together, `||`
stands between alternatives, and `((` and `))` stand around a group. Alternatives may not be empty,
unless there is only one.

Terms are read token by token. Behind each opening there is a level that keeps the alternatives that
are complete and the parts of the current one.
Main statement: `readTerms_single`, a single term is the condition that it binds to.
-/

namespace GameLog

open GameLog.Text

/-! ## One term -/

/-- The operator in front of a text, the longest that fits, and the text behind it. -/
def takeComparator? (cs : List Char) : Option (Comparator × List Char) :=
  operatorTokens.findSome? fun token =>
    if token.toList.isPrefixOf cs then
      (Comparator.ofToken? token).map fun op => (op, cs.drop token.length)
    else none

/-- The name, the comparator and the value of a term. The value has no line break. -/
def termParts? (token : String) : Option (String × Comparator × String) :=
  let name := token.toList.takeWhile isNameChar
  match takeComparator? (token.toList.dropWhile isNameChar) with
  | some (op, value) =>
    if isName name && !value.contains '\n' then some (String.ofList name, op, String.ofList value)
    else none
  | none => none

/-- The comparison that a term means in a scope. -/
def readTerm (s : Scope) (token : String) : Except QueryError Comparison :=
  match termParts? token with
  | some (name, op, value) => do
    let field ← s.canonical name
    let column ← s.column field
    Comparison.bind column op ((s.kind? field).getD .text) value token
  | none => .error (.malformed token)

/-! ## Levels -/

/-- The word between alternatives. -/
def orToken : String := "||"

/-- The word before a group. -/
def openToken : String := "(("

/-- The word behind a group. -/
def closeToken : String := "))"

/-- The alternatives complete so far, and the parts of the current one. -/
structure TermLevel where
  done : List Condition
  parts : List Condition
deriving Repr

namespace TermLevel

/-- Nothing read yet. -/
def start : TermLevel := ⟨[], []⟩

/-- The parts of one alternative together. -/
def together : List Condition → Condition
  | [part] => part
  | parts => .joined .and parts

/-- A level with one more part. -/
def push (l : TermLevel) (part : Condition) : TermLevel := ⟨l.done, l.parts ++ [part]⟩

/-- A level with its current alternative complete. -/
def next (l : TermLevel) : TermLevel := ⟨l.done ++ [together l.parts], []⟩

/-- The condition of a level. Of several alternatives none may be empty. -/
def close (l : TermLevel) : Except QueryError Condition :=
  match l.done with
  | [] => .ok (together l.parts)
  | done =>
    let branches := done ++ [together l.parts]
    if branches.any Condition.isEmpty then .error (.malformed orToken)
    else .ok (.joined .or branches)

end TermLevel

/-! ## All terms -/

/-- The condition of terms behind the levels read so far, innermost first. -/
def readTermsIn (s : Scope) (level : TermLevel) (outer : List TermLevel) :
    List String → Except QueryError Condition
  | [] => do
    let condition ← level.close
    if outer.isEmpty then return condition else throw (.malformed openToken)
  | token :: rest =>
    if token = orToken then readTermsIn s level.next outer rest
    else if token = openToken then readTermsIn s .start (level :: outer) rest
    else if token = closeToken then do
      let condition ← level.close
      match outer with
      | [] => throw (.malformed token)
      | level :: outer => readTermsIn s (level.push condition) outer rest
    else do
      let comparison ← readTerm s token
      readTermsIn s (level.push (.compare comparison)) outer rest

/-- The condition that the terms of a query mean. -/
def readTerms (s : Scope) (tokens : List String) : Except QueryError Condition :=
  readTermsIn s .start [] tokens

/-- A single term is the condition that it binds to. -/
theorem readTerms_single {s : Scope} {token : String} (hor : token ≠ orToken)
    (hopen : token ≠ openToken) (hclose : token ≠ closeToken) :
    readTerms s [token] = (readTerm s token).map .compare := by
  simp only [readTerms, readTermsIn, hor, hopen, hclose, if_false]
  cases readTerm s token <;> rfl

end GameLog
