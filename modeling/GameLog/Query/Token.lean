import GameLog.Query.Clause
import GameLog.Query.Error
import GameLog.Statement.Condition
import GameLog.Text.Digit

/-!
# The tokens of a query

A query is a list of tokens, most of which may stand anywhere. Operators that were split off their
operands are put back first; then actors, indexes, game types and row sorts are taken out one after
another, and what is left are the terms of the query.

Main statements:
* `rejoin_text`: putting operators back loses no text;
* `inWord_readIndex`: an index that is read is a 64-bit integer and not negative.
-/

namespace GameLog

open GameLog.Text

/-- The tokens of command texts: the words between their blanks. -/
def tokenize (args : List String) : List String := args.flatMap words

/-! ## Operators -/

/-- The comparator that an operator of the query language stands for. -/
def Comparator.ofToken? (token : String) : Option Comparator :=
  [("!==", ne), ("==", eq), ("!=", ne), ("<=", le), (">=", ge), ("=~", like), ("!~", notLike),
    ("=", eq), ("<", lt), (">", gt)].lookup token

/-- The operators, each before those that it starts with. -/
def operatorTokens : List String := ["!==", "==", "!=", "<=", ">=", "=~", "!~", "=", "<", ">"]

/-- Whether a token is an operator. -/
def isOperator (token : String) : Bool := operatorTokens.contains token

/-- Whether a token ends in an operator with something in front of it. -/
def endsWithOperator (token : String) : Bool :=
  operatorTokens.any fun op => token != op && endsWith token op

/-- Tokens with operators put back to their operands, behind those done, of which the last stands
first. An operator joins the tokens around it, a token that ends in one joins the next. -/
def rejoinBehind : List String → List String → List String
  | done, [] => done.reverse
  | done, token :: rest =>
    match isOperator token, done, rest with
    | true, last :: before, [] => ((last ++ token) :: before).reverse
    | true, last :: before, next :: rest => rejoinBehind ((last ++ token ++ next) :: before) rest
    | _, done, [] => (token :: done).reverse
    | _, done, next :: rest =>
      if endsWithOperator token then rejoinBehind ((token ++ next) :: done) rest
      else rejoinBehind (token :: done) (next :: rest)

/-- Tokens with operators put back to their operands. -/
def rejoin (tokens : List String) : List String := rejoinBehind [] tokens

/-! ## Taking tokens out -/

/-- The first token of a sort, and the tokens without it. -/
def takeFirst (sort : String → Bool) (tokens : List String) : Option String × List String :=
  (tokens.find? sort, tokens.eraseP sort)

/-- All tokens of a sort, and the tokens without them. -/
def takeAll (sort : String → Bool) (tokens : List String) : List String × List String :=
  (tokens.filter sort, tokens.filter fun token => !sort token)

/-! ## Actors -/

/-- Whose rows a query reads. -/
inductive Actor
  | anyone
  | named (name : String)
deriving DecidableEq, Repr

/-- How an actor is called in replies. -/
def Actor.label : Actor → String
  | anyone => "*"
  | named name => name

/-- Whether a token names an actor. -/
def isActorToken (token : String) : Bool := token == "*" || startsWith token "@"

/-- The actor of a query that names none. -/
def Actor.ofDefault (name : String) : Actor :=
  if name = "" || name = "*" then anyone else named name

/-- The actor that a token names, if there is one. -/
def Actor.read (default : String) : Option String → Except QueryError Actor
  | none => .ok (ofDefault default)
  | some token =>
    if token = "*" then .ok anyone
    else
      let name := String.ofList (token.toList.dropWhile (· == '@'))
      if name = "" then .error (.malformed token) else .ok (named name)

/-- The words of a query behind its actor. -/
def describe (actor : Actor) (text : String) : String :=
  joinWith " " (actor.label :: (words text).filter fun word => !isActorToken word)

/-! ## Indexes -/

/-- Whether a token has the form of an index: digits behind an optional sign. -/
def isIndex (token : String) : Bool :=
  let digits (cs : List Char) := !cs.isEmpty && cs.all isDigit
  match token.toList with
  | '+' :: cs => digits cs
  | '-' :: cs => digits cs
  | cs => digits cs

/-- The index that a token stands for. -/
def readIndex (token : String) : Except QueryError Int :=
  let digits := match token.toList with
    | '+' :: cs => cs
    | cs => cs
  match (readDigits? digits).filter fun (n : Nat) => inWord n with
  | some n => .ok (n : Int)
  | none => .error (.badIndex token)

/-- An index that is read is a 64-bit integer and not negative. -/
theorem inWord_readIndex {token : String} {n : Int} (h : readIndex token = .ok n) :
    0 ≤ n ∧ n < wordEnd := by
  unfold readIndex at h
  simp only at h
  split at h
  · rename_i m hm
    have hn : (m : Int) = n := Except.ok.inj h
    have := (Option.filter_eq_some_iff.1 hm).2
    simp only [inWord, Bool.and_eq_true, decide_eq_true_eq] at this
    omega
  · simp at h

/-- The marker of a query for a random row, in any letter case. -/
def isRandomMarker (token : String) : Bool := sameLetters token "-random"

/-! ## Row sorts -/

/-- Whether a character may stand first in the field of a row sort. Letter case is folded here, so
that two more letters count as ASCII ones. -/
def isSortFieldStart (c : Char) : Bool := isNameStart c || c == 'ſ' || c == '\u212a'

/-- Whether the largest value is asked for and of which field, of a token such as `max=sc`. -/
def rowSort? (token : String) : Option (Bool × String) :=
  match splitFirst '=' token.toList with
  | some (word, c :: cs) =>
    if isSortFieldStart c && cs.all isNameChar then
      match word.map Char.toLower with
      | ['m', 'a', 'x'] => some (true, String.ofList (c :: cs))
      | ['m', 'i', 'n'] => some (false, String.ofList (c :: cs))
      | _ => none
    else none
  | _ => none

/-! ## Putting operators back -/

theorem rejoinBehind_word {token : String} (h : isOperator token = false) (done : List String)
    (next : String) (rest : List String) :
    rejoinBehind done (token :: next :: rest) =
      if endsWithOperator token then rejoinBehind ((token ++ next) :: done) rest
      else rejoinBehind (token :: done) (next :: rest) := by
  rw [rejoinBehind]
  simp [h]

theorem rejoinBehind_operator {token : String} (h : isOperator token = true) (last : String)
    (before : List String) (next : String) (rest : List String) :
    rejoinBehind (last :: before) (token :: next :: rest) =
      rejoinBehind ((last ++ token ++ next) :: before) rest := by
  rw [rejoinBehind]
  exact h

theorem rejoinBehind_text (done tokens : List String) :
    String.join (rejoinBehind done tokens) = String.join done.reverse ++ String.join tokens := by
  fun_induction rejoinBehind done tokens <;> simp_all [String.append_assoc]

/-- Putting operators back loses no text. -/
theorem rejoin_text (tokens : List String) :
    String.join (rejoin tokens) = String.join tokens := by
  simp [rejoin, rejoinBehind_text]

end GameLog
