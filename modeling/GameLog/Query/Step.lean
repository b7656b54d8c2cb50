import GameLog.Query.Basic

/-!
# Building queries step by step

After it is started a query is built by steps of a few kinds, which may come in any order and
number.

Main statements:
* `scope_run`: no step leaves the scope of a query;
* `run_append`: steps are taken one after another.
-/

namespace GameLog

/-- A step of building a query. -/
inductive QueryStep
  | condition (joint : Joint) (node : Condition)
  | extra (list : ExtraList)
  | group (list : GroupList)
  | rowSort (field : String) (largest : Bool)
  | checkJoins
  | join
  | reverse
deriving Repr

namespace Query

/-- A query after one step. A row sort by a field that is not known changes nothing. -/
def step (q : Query) : QueryStep → Query
  | .condition joint node => q.addCondition joint node
  | .extra list => q.setExtra list
  | .group list => q.setGroup list
  | .rowSort field largest => ((q.setRowSort field largest).toOption).getD q
  | .checkJoins => q.checkJoins
  | .join => q.fixupJoin
  | .reverse => q.reverse

/-- A query after steps taken one after another. -/
def run (q : Query) (steps : List QueryStep) : Query := steps.foldl step q

/-- Steps are taken one after another. -/
theorem run_append (q : Query) (a b : List QueryStep) : q.run (a ++ b) = (q.run a).run b := by
  simp [run]

@[simp] theorem scope_fixupJoin (q : Query) : q.fixupJoin.scope = q.scope := by
  unfold fixupJoin
  split <;> rfl

@[simp] theorem scope_checkJoins (q : Query) : q.checkJoins.scope = q.scope := by
  unfold checkJoins
  split
  · rfl
  · split <;> simp

/-- No step leaves the scope of a query. -/
theorem scope_step (q : Query) (s : QueryStep) : (q.step s).scope = q.scope := by
  cases s with
  | condition joint node => simp [step, addCondition]
  | extra list => simp [step, setExtra]
  | group list =>
    simp only [step, setGroup, scope_checkJoins]
    split <;> simp
  | rowSort field largest =>
    rw [step]
    cases h : q.setRowSort field largest with
    | error e => rfl
    | ok q' =>
      simp only [setRowSort, bind, Except.bind] at h
      split at h
      · cases h
      · split at h
        · cases h
        · cases h
          simp [Except.toOption]
  | checkJoins => simp [step]
  | join => simp [step]
  | reverse => rfl

/-- No steps leave the scope of a query. -/
theorem scope_run (q : Query) (steps : List QueryStep) : (q.run steps).scope = q.scope := by
  induction steps generalizing q with
  | nil => rfl
  | cons s steps ih => exact (ih (q.step s)).trans (scope_step q s)

end Query

end GameLog
