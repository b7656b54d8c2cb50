import GameLog.Fetch
import GameLog.Report.Merge

/-!
# Answering a command

A command is read, its queries are put to a driver, and the answer is one line: a report if the
queries are aggregate, else the row asked for, else that there is nothing.
Main statement: `execute_error`, a command that cannot be read asks the driver nothing.
-/

namespace GameLog

open GameLog.Text

/-- The reply that there is nothing to show. -/
def QueryGroup.nothingText (g : QueryGroup) : String :=
  "No " ++ plural g.entity 0 ++ " for " ++ g.description ++ "."

/-- The reply to queries that are reported together.  -/
def QueryGroup.reply (d : Driver) (pick : Pick) (g : QueryGroup) : Asking String := do
  if g.primary.isAggregate then
    return ((← askReport d g).map Report.text).getD g.nothingText
  else
    return ((← fetchRow d pick g.primary).map FoundRow.text).getD g.nothingText

/-- The reply to a command. -/
def execute (d : Driver) (c : Catalog) (context : Context) (defaultName : String)
    (tokens : List String) (pick : Pick) : Asking String := do
  let g ← (QueryGroup.parse c context defaultName tokens : Except QueryError QueryGroup)
  g.reply d pick

/-- A command that cannot be read asks the driver nothing. -/
theorem execute_error {d : Driver} {c : Catalog} {context : Context} {defaultName : String}
    {tokens : List String} {pick : Pick} {e : QueryError} {calls : List Call}
    (h : QueryGroup.parse c context defaultName tokens = .error e) :
    (execute d c context defaultName tokens pick).run calls = (.error e, calls) := by
  simp only [execute, h]
  rfl

end GameLog
