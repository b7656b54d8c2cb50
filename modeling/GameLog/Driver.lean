import GameLog.Query.Error
import GameLog.Statement.Basic

/-!
# Asking a store

Queries reach a store through a driver, which counts rows and reads rows for statements. What a
driver answers may depend on what it was asked before. A computation that asks a driver keeps the
list of its calls, also when it fails.

Main statements:
* `askCount_calls`, `askRows_calls`: asking adds the one call, whatever the answer.
-/

namespace GameLog

/-- A row that a store answers with. -/
abbrev Row := List Cell

/-- The messages of a failure, outermost first. -/
structure Failure where
  messages : List String
deriving DecidableEq, Repr

/-- The text of a failure. -/
def Failure.text (f : Failure) : String := Text.joinWith ": " f.messages

/-- What a store is asked: to count, or to read at most so many rows after passing over some. -/
inductive Call
  | count (statement : Statement)
  | rows (statement : Statement) (limit offset : Option Nat)
deriving Repr

/-- Whether rows were asked for. -/
def Call.isRows : Call → Bool
  | count _ => false
  | rows _ _ _ => true

/-- A store as far as queries use it. Its answers depend on the calls made before. -/
structure Driver where
  count : List Call → Statement → Except Failure Int
  rows : List Call → Statement → Option Nat → Option Nat → Except Failure (List Row)

/-- A computation that asks a driver. -/
abbrev Asking (α : Type) := ExceptT QueryError (StateM (List Call)) α

namespace Driver

/-- The answer to a call, or its failure as that of the query. -/
def answer {α : Type} (call : Call) (ask : List Call → Except Failure α) : Asking α :=
  ExceptT.mk fun before =>
    ((ask before).mapError fun failure => .driver failure.text, before ++ [call])

/-- Asks for the count of a statement. -/
def askCount (d : Driver) (s : Statement) : Asking Int :=
  answer (.count s) fun before => d.count before s

/-- Asks for rows of a statement. -/
def askRows (d : Driver) (s : Statement) (limit offset : Option Nat) : Asking (List Row) :=
  answer (.rows s limit offset) fun before => d.rows before s limit offset

/-- Asking for a count adds the one call. -/
theorem askCount_calls (d : Driver) (s : Statement) (before : List Call) :
    ((d.askCount s).run before).2 = before ++ [.count s] := rfl

/-- Asking for rows adds the one call. -/
theorem askRows_calls (d : Driver) (s : Statement) (limit offset : Option Nat)
    (before : List Call) :
    ((d.askRows s limit offset).run before).2 = before ++ [.rows s limit offset] := rfl

end Driver

end GameLog
