import GameLog.Binary64.Basic
import GameLog.Dictionary

/-!
# JSON values

A JSON value with its numbers read: whole numbers that fit 64 bits are kept as they are, all others
as numbers of the format binary64. An object holds one value for each name, in the order of the
names. Main statement: `find?_ofFields`, of two values of one name in a text the later one counts.
-/

namespace GameLog

/-- A number of a JSON value. -/
inductive JsonNumber
  | whole (n : Int)
  | real (x : Binary64)
deriving DecidableEq, Repr

/-- A JSON value. -/
inductive Json
  | null
  | bool (b : Bool)
  | number (n : JsonNumber)
  | string (s : String)
  | array (items : List Json)
  | object (fields : List (String × Json))
deriving Repr

namespace Json

/-- The object of a list of fields, of which the last one of a name counts. -/
def ofFields (fields : List (String × Json)) : Json := object (Dictionary.ofList fields).entries

/-- The value of a name in an object. -/
def find? (name : String) : Json → Option Json
  | object fields => Dictionary.lookup name fields
  | _ => none

/-- Of two values of one name the later one counts. -/
theorem find?_ofFields (fields : List (String × Json)) (name key : String) (value : Json) :
    (ofFields (fields ++ [(name, value)])).find? key =
      if key = name then some value else (ofFields fields).find? key := by
  simp only [ofFields, Dictionary.ofList, List.foldl_append, find?]
  exact Dictionary.find?_insert _ name key value

end Json

/-- The 64-bit integer that a number is. -/
def JsonNumber.integer? : JsonNumber → Option Int
  | whole n => if n < 0x8000000000000000 then some n else none
  | real _ => none

end GameLog
