import GameLog.Store.Select

/-!
# Answers from a list of rows

If it is settled which rows match, a driver may answer from the list of these rows: it counts them
all, and puts them in the order of a statement before it passes over some and cuts the rest.

Main statement: `answer_eq_listed`, a store answers a statement without groups from the list of the
rows under the condition.
-/

namespace GameLog

/-- The answer to a statement, row by row in its order. -/
def listed (s : Statement) (rows : List JoinedRow) : List Row :=
  (sortRowsBy (s.orderBy.map (·.direction)) (fun row => s.orderKeys [row]) rows).map
    fun row => s.answerOf [row]

/-- The driver that answers from a list of rows. -/
def listDriver (rows : List JoinedRow) : Driver where
  count _ _ := .ok rows.length
  rows _ s limit offset := .ok (cutRows limit offset (listed s rows))

theorem sortRowsBy_map {α β : Type} (f : α → β) (directions : List Direction)
    (keys : β → List Cell) (items : List α) :
    sortRowsBy directions keys (items.map f) =
      (sortRowsBy directions (fun a => keys (f a)) items).map f := by
  unfold sortRowsBy
  rw [List.map_mergeSort]
  exact fun _ _ _ _ => rfl

/-- A store answers a statement without groups from the list of the rows under the condition. -/
theorem answer_eq_listed {s : Statement} {store : Store} {tables : List (String × Table)}
    (hs : s.isGrouped = false) (ht : s.findTables store = .ok tables)
    (hc : s.check tables = .ok ()) : s.answer store = .ok (listed s (s.keptRows tables)) := by
  simp only [Statement.answer, ht, hc, bind, Except.bind, pure, Except.pure, Statement.groups, hs]
  simp [sortRowsBy_map, listed, Function.comp_def]

end GameLog
