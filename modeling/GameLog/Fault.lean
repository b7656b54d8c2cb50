/-!
# Faults

A computation that gives no value was refused for a cause, or the run was aborted in it. What calls the
computation can report a cause, or say more about it. Of an abort nothing is said, and nothing is done
behind it.
-/

namespace GameLog

/-- Why a computation gives no value. -/
inductive Fault (ε : Type)
  | refused (cause : ε)
  | aborted
deriving DecidableEq, Repr

/-- A fault with another cause. -/
def Fault.map {ε ε' : Type} (f : ε → ε') : Fault ε → Fault ε'
  | refused cause => refused (f cause)
  | aborted => aborted

end GameLog
