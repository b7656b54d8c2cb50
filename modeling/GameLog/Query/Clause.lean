import GameLog.Statement.Column
import GameLog.Text.Word

/-!
# Lists in clauses

Extra columns and groups are asked for by clauses such as `x=avg(xl),-max(turn)` and
`s=god,-place%`: a letter, an equals sign and items with commas between them. An item is a sign
that turns its order around, a field or a function of a field, and in groups a percent sign at the
end.
Main statement: `call?_of_isName`, a name is not a call.
-/

namespace GameLog

open GameLog.Text

/-! ## Names -/

/-- Whether a character may stand first in the name of a field. -/
def isNameStart (c : Char) : Bool := c.isAlpha || c == '_'

/-- Whether a character may stand in the name of a field. -/
def isNameChar (c : Char) : Bool := isWord c || c == '.' || c == ':'

/-- Whether a text has the form of the name of a field. -/
def isName : List Char → Bool
  | [] => false
  | c :: cs => isNameStart c && cs.all isNameChar

/-- The function and the field of a call such as `avg( xl )`. -/
def call? (cs : List Char) : Option (List Char × List Char) :=
  match cs.takeWhile isWord, cs.dropWhile isWord with
  | function, '(' :: rest =>
    let field := trimmed rest.dropLast
    if !function.isEmpty && rest.getLast? == some ')' && isName field then some (function, field)
    else none
  | _, _ => none

/-- All characters of a name may stand inside a name. -/
theorem isNameChar_of_isName {cs : List Char} (h : isName cs = true) :
    ∀ c ∈ cs, isNameChar c = true := by
  cases cs with
  | nil => simp
  | cons first rest =>
    simp only [isName, Bool.and_eq_true, List.all_eq_true] at h
    have hf : isNameChar first = true := by
      have := h.1
      simp only [isNameStart, Bool.or_eq_true, beq_iff_eq] at this
      simp only [isNameChar, Bool.or_eq_true, beq_iff_eq]
      exact .inl (.inl (isWord_of_isAlpha this))
    simpa [hf] using h.2

theorem isBlank_of_isNameChar {c : Char} (h : isNameChar c = true) : isBlank c = false := by
  simp only [isNameChar, Bool.or_eq_true, beq_iff_eq] at h
  rcases h with (h | rfl) | rfl
  · exact isBlank_of_isWord h
  · rfl
  · rfl

theorem trimmed_of_isName {cs : List Char} (h : isName cs = true) : trimmed cs = cs :=
  trimmed_of_forall fun c hc => isBlank_of_isNameChar (isNameChar_of_isName h c hc)

/-- A name is not a call. -/
theorem call?_of_isName {cs : List Char} (h : isName cs = true) : call? cs = none := by
  unfold call?
  split
  · rename_i function rest hrest
    have : '(' ∈ cs := (List.dropWhile_suffix isWord).mem (by simp [hrest])
    exact absurd (isNameChar_of_isName h _ this) (by decide)
  · rfl

/-! ## Items -/

/-- One item of a clause. -/
structure ClauseItem where
  direction : Direction
  function : Option String
  field : String
  percent : Bool
deriving DecidableEq, Repr

/-- The direction that a sign in front of an item asks for, and the text behind it. -/
def takeSign : List Char → Direction × List Char
  | '-' :: cs => (.ascending, cs)
  | '+' :: cs => (.descending, cs)
  | cs => (.descending, cs)

/-- Whether a percent sign ends a text, if it may, and the text before it. -/
def takePercent (allowed : Bool) (cs : List Char) : Bool × List Char :=
  if allowed && cs.getLast? == some '%' then (true, cs.dropLast) else (false, cs)

/-- The item that a text is. -/
def readItem? (percents : Bool) (cs : List Char) : Option ClauseItem :=
  let (direction, cs) := takeSign cs
  let (percent, cs) := takePercent percents cs
  match call? cs with
  | some (function, field) =>
    some ⟨direction, some (String.ofList function), String.ofList field, percent⟩
  | none =>
    if isName cs then some ⟨direction, none, String.ofList cs, percent⟩ else none

/-! ## Clauses -/

/-- The text behind one of some letters, an equals sign, and the blanks after each. -/
def clauseBody? (letters : List Char) : List Char → Option (List Char)
  | [] => none
  | c :: cs =>
    match trimStart cs with
    | '=' :: body => if letters.contains c then some (trimStart body) else none
    | _ => none

/-- The items of a list with commas. -/
def readItems? (percents : Bool) (body : List Char) : Option (List ClauseItem) :=
  (commaParts body).mapM fun part => readItem? percents (trimmed part)

/-- The items of a clause that asks for extra columns. -/
def extraItems? (clause : String) : Option (List ClauseItem) :=
  (clauseBody? ['x', 'X'] (trimmed clause.toList)).bind (readItems? false)

/-- The text without a minus sign in front of it. -/
def dropMinus : List Char → List Char
  | '-' :: cs => cs
  | cs => cs

/-- The items of a clause that asks for groups. The long s is a form of the letter. -/
def groupItems? (clause : String) : Option (List ClauseItem) :=
  (clauseBody? ['s', 'S', 'ſ'] (dropMinus (trimmed clause.toList))).bind (readItems? true)

/-! ## Telling clauses -/

/-- Whether a text starts like a clause of one of some letters, well-formed or not. -/
def startsClause (letters cs : List Char) : Bool :=
  match trimStart cs with
  | [] => false
  | c :: cs => letters.contains c && (trimStart cs).head? == some '='

/-- Whether a token is to be read as a clause for extra columns. -/
def isExtraClause (token : String) : Bool := startsClause ['x', 'X'] token.toList

/-- Whether a token is to be read as a clause for groups. -/
def isGroupClause (token : String) : Bool := startsClause ['s', 'S'] (dropMinus token.toList)

end GameLog
