import GameLog.Driver

/-!
# Asking a driver in turn

What a computation returns that asks a driver, in terms of what the driver answers behind the calls
made so far.

Main statements:
* `askCount_run`, `askRows_run`: asking once returns what the driver answers;
* `Asking.run_bind`, `Asking.run_bind_error`, `Asking.of_run_bind`: asking further, or not behind a
  failure, and back from a result.
-/

namespace GameLog

theorem Asking.run_bind {α β : Type} {x : Asking α} (f : α → Asking β) {before after : List Call}
    {a : α} (h : x.run before = (.ok a, after)) : (x >>= f).run before = (f a).run after := by
  change ExceptT.bindCont f (x before).1 (x before).2 = (f a).run after
  rw [show x before = (.ok a, after) from h]
  rfl

theorem askCount_run {d : Driver} {before : List Call} {st : Statement} {n : Int}
    (h : d.count before st = .ok n) :
    (d.askCount st).run before = (.ok n, before ++ [.count st]) := by
  change ((d.count before st).mapError _, _) = _
  rw [h]
  rfl

theorem askRows_run {d : Driver} {before : List Call} {st : Statement} {limit offset : Option Nat}
    {answer : List Row} (h : d.rows before st limit offset = .ok answer) :
    (d.askRows st limit offset).run before = (.ok answer, before ++ [.rows st limit offset]) := by
  change ((d.rows before st limit offset).mapError _, _) = _
  rw [h]
  rfl

/-! ## Failures -/

/-- Nothing is asked behind a failure. -/
theorem Asking.run_bind_error {α β : Type} {x : Asking α} (f : α → Asking β)
    {before after : List Call} {e : QueryError} (h : x.run before = (.error e, after)) :
    (x >>= f).run before = (.error e, after) := by
  change ExceptT.bindCont f (x before).1 (x before).2 = _
  rw [show x before = (.error e, after) from h]
  rfl

theorem askCount_run_error {d : Driver} {before : List Call} {st : Statement} {f : Failure}
    (h : d.count before st = .error f) :
    (d.askCount st).run before = (.error (.driver f.text), before ++ [.count st]) := by
  change ((d.count before st).mapError _, _) = _
  rw [h]
  rfl

theorem askRows_run_error {d : Driver} {before : List Call} {st : Statement}
    {limit offset : Option Nat} {f : Failure} (h : d.rows before st limit offset = .error f) :
    (d.askRows st limit offset).run before =
      (.error (.driver f.text), before ++ [.rows st limit offset]) := by
  change ((d.rows before st limit offset).mapError _, _) = _
  rw [h]
  rfl

/-! ## Back from a result -/

/-- A computation behind another one succeeds only if both do. -/
theorem Asking.of_run_bind {α β : Type} {x : Asking α} {f : α → Asking β}
    {before after : List Call} {b : β} (h : (x >>= f).run before = (.ok b, after)) :
    ∃ a mid, x.run before = (.ok a, mid) ∧ (f a).run mid = (.ok b, after) := by
  change ExceptT.bindCont f (x before).1 (x before).2 = (.ok b, after) at h
  rcases hx : x before with ⟨_ | a, mid⟩
  · rw [hx] at h
    cases h
  · rw [hx] at h
    exact ⟨a, mid, hx, h⟩

theorem of_askCount_run {d : Driver} {before after : List Call} {st : Statement} {n : Int}
    (h : (d.askCount st).run before = (.ok n, after)) :
    d.count before st = .ok n ∧ after = before ++ [.count st] := by
  change ((d.count before st).mapError _, _) = (_, _) at h
  obtain ⟨hcount, hafter⟩ := Prod.mk.inj h
  cases hd : d.count before st with
  | error e =>
    rw [hd] at hcount
    cases hcount
  | ok m =>
    rw [hd] at hcount
    cases hcount
    exact ⟨rfl, hafter.symm⟩

theorem of_askRows_run {d : Driver} {before after : List Call} {st : Statement}
    {limit offset : Option Nat} {answer : List Row}
    (h : (d.askRows st limit offset).run before = (.ok answer, after)) :
    d.rows before st limit offset = .ok answer ∧ after = before ++ [.rows st limit offset] := by
  change ((d.rows before st limit offset).mapError _, _) = (_, _) at h
  obtain ⟨hrows, hafter⟩ := Prod.mk.inj h
  cases hd : d.rows before st limit offset with
  | error e =>
    rw [hd] at hrows
    cases hrows
  | ok rows =>
    rw [hd] at hrows
    cases hrows
    exact ⟨rfl, hafter.symm⟩

end GameLog
