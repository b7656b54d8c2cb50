import GameLog.Text.Numeral

/-!
# Why a query fails

Every failure is a reply of one line. All but failures of the driver are faults of the input.
-/

namespace GameLog

/-- The cause of a failed query. -/
inductive QueryError
  /-- A clause or term that does not have its form. -/
  | malformed (clause : String)
  /-- A group list that names a field twice. -/
  | repeatedGroup (field clause : String)
  /-- A list with both aggregates and plain fields. -/
  | mixedKinds (clause : String)
  /-- A field that reports are not grouped by. -/
  | notSummarisable (field : String)
  /-- A name that no field in scope has. -/
  | unknownField (field : String)
  /-- A function that the catalog does not have. -/
  | unknownFunction (function clause : String)
  /-- A function that does not take a field of this kind. -/
  | functionMismatch (function field : String)
  /-- A sort condition on nothing that the report shows. -/
  | unknownSort (field : String)
  /-- Fragments of which not all are aggregate. -/
  | mixedFragments (input : String)
  /-- An index that is negative or too large. -/
  | badIndex (index : String)
  /-- An index beyond the matching rows. -/
  | indexOutOfRange (index : Int)
  /-- A failure of the store. -/
  | driver (message : String)
deriving DecidableEq, Repr

namespace QueryError

/-- The reply line of a failure. -/
def message : QueryError → String
  | malformed clause => "Malformed clause: " ++ clause
  | repeatedGroup field clause => "Repeated field " ++ field ++ " in summary list " ++ clause
  | mixedKinds clause => "Cannot mix aggregate and non-aggregate fields in " ++ clause
  | notSummarisable field => "Cannot summarise by " ++ field
  | unknownField field => "Unknown selector " ++ field
  | unknownFunction function clause => "Unknown aggregate function " ++ function ++ " in " ++ clause
  | functionMismatch function field => function ++ " cannot be applied to " ++ field
  | unknownSort field => "Bad sort condition: '" ++ field ++ "'"
  | mixedFragments input =>
    "Bad input: " ++ input ++ "; when using /, all query pieces must be summary queries"
  | badIndex index => "Bad index: " ++ index
  | indexOutOfRange index => "Index out of range: " ++ Text.intText index
  | driver message => "query execution failed: " ++ message

/-- Whether the input is at fault, and not the store. -/
def isInput : QueryError → Bool
  | driver _ => false
  | _ => true

end QueryError

end GameLog
