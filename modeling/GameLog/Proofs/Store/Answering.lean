import GameLog.Store.Listing

/-!
# When a store answers

A store answers a statement if it has the tables and the statement names only what is there; then it
counts the rows under the condition.

Main statements:
* `Statement.check_eq_ok_iff`: what it means that a statement names only what is there;
* `Statement.answer_countRows`: the answer to a statement that counts rows.
-/

namespace GameLog

namespace Statement

/-- A statement names only what is there exactly if all its columns, functions and texts are known. -/
theorem check_eq_ok_iff {s : Statement} {tables : List (String × Table)} :
    s.check tables = .ok () ↔ (∀ c ∈ s.columns, knows tables c = true) ∧
      (∀ f ∈ s.functions, knownFunctions.contains f = true) ∧
      ∀ text ∈ s.condition.fixedTexts, (readEquality? text).isSome = true := by
  have hnone {α : Type} {p : α → Bool} {items : List α} :
      items.find? (!p ·) = none ↔ ∀ item ∈ items, p item = true := by simp
  have htexts : (fun text => (readEquality? text).isNone) =
      fun text => !(readEquality? text).isSome := by
    funext text
    simp
  rw [← hnone, ← hnone, ← hnone]
  unfold check
  rw [htexts]
  -- each search throws if it finds something
  cases s.columns.find? (!knows tables ·) with
  | some c => simp [bind, Except.bind, throw, throwThe, MonadExceptOf.throw]
  | none =>
    cases s.functions.find? (!knownFunctions.contains ·) with
    | some f => simp [bind, Except.bind, throw, throwThe, MonadExceptOf.throw]
    | none =>
      cases s.condition.fixedTexts.find? fun text => !(readEquality? text).isSome <;>
        simp [pure, Except.pure, throw, throwThe, MonadExceptOf.throw]

/-- A store counts the rows under the condition. -/
theorem answer_countRows {s : Statement} {store : Store} {tables : List (String × Table)}
    {name : Option String} (hselected : s.selected = [⟨.countRows, name⟩]) (hgroup : s.groupBy = [])
    (ht : s.findTables store = .ok tables) (hc : s.check tables = .ok ()) :
    s.answer store = .ok [[.integer (s.keptRows tables).length]] := by
  have hgrouped : s.isGrouped = true := by simp [isGrouped, hselected, Expression.isAggregate]
  have hgroups : s.groups (s.keptRows tables) = [s.keptRows tables] := by
    simp [groups, hgrouped, hgroup]
  simp only [answer, ht, hc, bind, Except.bind, pure, Except.pure, hgroups]
  simp [sortRowsBy, answerOf, hselected, Expression.valueOf]

end Statement

end GameLog
