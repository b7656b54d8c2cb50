import GameLog.Catalog.Builtin
import GameLog.Fetch
import GameLog.Proofs.Asking
import GameLog.Proofs.Query.RowSort
import GameLog.Proofs.Store.Answering
import GameLog.Proofs.Store.Ordering

/-!
# Reading one row from the nearer end

A row is asked for by its number from the last one. It may be read in the order of the query, or in
the order turned around, whichever passes over fewer rows. Both find the same row, because the field
that tells rows apart breaks all ties and is turned around as well: no two rows stand at one place, so
that there is one order (`InOrderOf.strict`) and turning it around is reading it backwards
(`InOrderOf.reverse`).

Main statements:
* `AnswersFrom.readsForward`: the row at a place is read, from either end;
* `indexed_fetch_reads_forward`: what a fetch finds, for every query and every index.
-/

namespace GameLog

/-! ## Rows in the order of a statement -/

/-- **Rows stand in the order of a statement**: they are the rows given, and by its order each may
stand before those behind it. -/
structure InOrderOf (s : Statement) (rows ordered : List JoinedRow) : Prop where
  perm : ordered.Perm rows
  sorted : ordered.Pairwise fun a b =>
    mayPrecede (s.orderBy.map (·.direction)) (s.orderKeys [a]) (s.orderKeys [b]) = true

theorem inOrderOf_sortRowsBy (s : Statement) (rows : List JoinedRow) :
    InOrderOf s rows
      (sortRowsBy (s.orderBy.map (·.direction)) (fun row => s.orderKeys [row]) rows) where
  perm := sortRowsBy_perm _ _ rows
  sorted := pairwise_sortRowsBy (fun row => by simp [Statement.orderKeys]) rows

namespace Query

/-- The column that tells the rows of a query apart. -/
def idColumn (q : Query) : Column := ⟨some q.scope.context.short, idField⟩

/-- **Rows have distinct ids.** -/
def DistinctIds (q : Query) (rows : List JoinedRow) : Prop :=
  rows.Pairwise fun a b => (a.cell q.idColumn).sameAs (b.cell q.idColumn) = false

instance (q : Query) (rows : List JoinedRow) : Decidable (q.DistinctIds rows) :=
  inferInstanceAs (Decidable (rows.Pairwise _))

/-- How two rows compare in the order of a query. -/
def compareRows (q : Query) (a b : JoinedRow) : Ordering :=
  (Cell.orderIn q.sortDirection (a.cell q.sortColumn) (b.cell q.sortColumn)).then
    (Cell.orderIn q.sortDirection (a.cell q.idColumn) (b.cell q.idColumn))

/-- The rows strictly behind a row in the order of a query. -/
def rowsBehind (q : Query) (row : JoinedRow) (rows : List JoinedRow) : List JoinedRow :=
  rows.filter fun other => q.compareRows row other == .lt

variable {q : Query} {rows ordered : List JoinedRow}

instance (q : Query) : Std.OrientedCmp q.compareRows where
  eq_swap {a b} := by
    rw [compareRows, compareRows, Ordering.swap_then]
    exact congrArg₂ Ordering.then Std.OrientedCmp.eq_swap Std.OrientedCmp.eq_swap

theorem mayPrecede_selectRows (q : Query) (a b : JoinedRow) :
    mayPrecede (q.selectRows.orderBy.map (·.direction)) (q.selectRows.orderKeys [a])
      (q.selectRows.orderKeys [b]) = true ↔ (q.compareRows a b).isLE = true := by
  change mayPrecede [q.sortDirection, q.sortDirection] [a.cell q.sortColumn, a.cell q.idColumn]
    [b.cell q.sortColumn, b.cell q.idColumn] = true ↔ _
  rw [mayPrecede_cons, mayPrecede_cons, compareRows]
  cases Cell.orderIn q.sortDirection (a.cell q.sortColumn) (b.cell q.sortColumn) <;>
    cases Cell.orderIn q.sortDirection (a.cell q.idColumn) (b.cell q.idColumn) <;>
      simp [mayPrecede, Ordering.then]

end Query

section Order

variable {q : Query} {rows ordered forward backward : List JoinedRow}

/-- **There is one order**: of rows with distinct ids, each stands strictly before those behind it. -/
theorem InOrderOf.strict (h : InOrderOf q.selectRows rows ordered) (hids : q.DistinctIds rows) :
    ordered.Pairwise fun a b => q.compareRows a b = .lt := by
  have hapart : ordered.Pairwise fun a b =>
      (a.cell q.idColumn).sameAs (b.cell q.idColumn) = false := by
    refine (h.perm.pairwise_iff fun {a b} hab => ?_).mpr hids
    rw [Bool.eq_false_iff, Ne, Cell.sameAs_iff_orderIn .ascending] at hab ⊢
    exact fun hba => hab (Std.OrientedCmp.eq_symm hba)
  refine (h.sorted.and hapart).imp fun {a b} ⟨hle, hne⟩ => ?_
  rw [Query.mayPrecede_selectRows] at hle
  cases hcompare : q.compareRows a b with
  | lt => rfl
  | gt =>
    rw [hcompare] at hle
    cases hle
  | eq =>
    -- rows at one place would have the same id
    rw [Query.compareRows, Ordering.then_eq_eq, ← Cell.sameAs_iff_orderIn, ← Cell.sameAs_iff_orderIn,
      hne] at hcompare
    cases hcompare.2

theorem InOrderOf.unique (h : InOrderOf q.selectRows rows ordered) (hids : q.DistinctIds rows)
    (h' : InOrderOf q.selectRows rows forward) : ordered = forward := by
  refine List.Perm.eq_of_pairwise (fun a b _ _ hab hba => ?_) (h.strict hids) (h'.strict hids)
    (h.perm.trans h'.perm.symm)
  rw [Std.OrientedCmp.gt_of_lt hab] at hba
  cases hba

/-- **The order turned around is the order read backwards.** -/
theorem InOrderOf.reverse (h : InOrderOf q.reverse.selectRows rows backward) :
    InOrderOf q.selectRows rows backward.reverse where
  perm := (List.reverse_perm backward).trans h.perm
  sorted := by
    rw [List.pairwise_reverse]
    refine h.sorted.imp fun {a b} hab => ?_
    rw [← mayPrecede_flip]
    exact hab

/-- The rows strictly behind a row are those that stand behind it. -/
theorem InOrderOf.length_rowsBehind {row : JoinedRow} (hids : q.DistinctIds rows)
    (h : InOrderOf q.selectRows rows (forward ++ row :: backward)) :
    (q.rowsBehind row rows).length = backward.length := by
  have hstrict := h.strict hids
  rw [List.pairwise_append, List.pairwise_cons] at hstrict
  obtain ⟨-, ⟨hbehind, -⟩, hbefore⟩ := hstrict
  have hnone : forward.filter (fun other => q.compareRows row other == .lt) = [] := by
    refine List.filter_eq_nil_iff.mpr fun other hother hlt => ?_
    have hgt := Std.OrientedCmp.gt_of_lt (hbefore other hother row (List.mem_cons_self ..))
    rw [hgt] at hlt
    cases hlt
  have hself : ¬(q.compareRows row row == .lt) = true := by
    have hplace : q.compareRows row row = .eq := Std.ReflCmp.compare_self
    rw [hplace]
    nofun
  have hall : backward.filter (fun other => q.compareRows row other == .lt) = backward :=
    List.filter_eq_self.mpr fun other hother => beq_iff_eq.mpr (hbehind other hother)
  calc (q.rowsBehind row rows).length
      = (q.rowsBehind row (forward ++ row :: backward)).length := (h.perm.filter _).length_eq.symm
    _ = backward.length := by
        rw [Query.rowsBehind, List.filter_append, hnone, List.nil_append, List.filter_cons,
          if_neg hself, hall]

end Order

/-! ## A driver that answers from rows -/

/-- **A driver answers from rows**: it counts them all, and reads rows from them in the order of the
statement, either way round, passing over some and cutting the rest. -/
structure AnswersFrom (d : Driver) (q : Query) (rows : List JoinedRow) : Prop where
  count : ∀ before, d.count before q.selectCount = .ok rows.length
  rows : ∀ before limit offset, ∀ s, s = q.selectRows ∨ s = q.reverse.selectRows →
    ∃ ordered, InOrderOf s rows ordered ∧
      d.rows before s limit offset =
        .ok (cutRows limit offset (ordered.map fun row => s.answerOf [row]))

theorem answersFrom_listDriver (q : Query) (rows : List JoinedRow) :
    AnswersFrom (listDriver rows) q rows where
  count _ := rfl
  rows _ _ _ s _ := ⟨_, inOrderOf_sortRowsBy s rows, rfl⟩

/-- A store answers from the rows of its tables under the condition of a query, if it has what the
query reads. -/
theorem answersFrom_store {q : Query} {store : Store} {tables : List (String × Table)}
    (hgrouped : q.selectRows.isGrouped = false) (ht : q.selectRows.findTables store = .ok tables)
    (hc : q.selectRows.check tables = .ok ()) :
    AnswersFrom store.driver q (q.selectRows.keptRows tables) where
  count before := by
    have hcheck : q.selectCount.check tables = .ok () := by
      rw [Statement.check_eq_ok_iff] at hc ⊢
      refine ⟨fun c hcolumn => hc.1 c ?_, by nofun, hc.2.2⟩
      simp only [Statement.columns, List.mem_append] at hcolumn ⊢
      rcases hcolumn with (((hcolumn | hcolumn) | hcolumn) | hcolumn) | hcolumn
      · simp [Query.selectCount, Expression.column?] at hcolumn
      · exact .inl (.inl (.inl (.inr hcolumn)))
      · exact .inl (.inl (.inr hcolumn))
      · cases hcolumn
      · cases hcolumn
    have hanswer : q.selectCount.answer store =
        .ok [[.integer (q.selectRows.keptRows tables).length]] :=
      Statement.answer_countRows (s := q.selectCount) rfl rfl ht hcheck
    simp only [Store.driver, hanswer]
    rfl
  rows before limit offset s hs := by
    refine ⟨_, inOrderOf_sortRowsBy s _, ?_⟩
    have hanswer : s.answer store = .ok (listed s (q.selectRows.keptRows tables)) := by
      rcases hs with rfl | rfl
      · exact answer_eq_listed hgrouped ht hc
      · exact answer_eq_listed (s := q.reverse.selectRows) hgrouped ht hc
    simp only [Store.driver, hanswer]
    rfl

theorem cutRows_one {before after : List Row} {row : Row} {offset : Nat}
    (h : before.length = offset) :
    cutRows (some 1) (some offset) (before ++ row :: after) = [row] := by
  subst h
  simp [cutRows]

section Fetch

variable {d : Driver} {pick : Pick} {q : Query} {rows : List JoinedRow} {before : List Call}

theorem planFront_offset_eq (count front : Int) : (planFront count front).offset =
    if (planFront count front).reversed then count - 1 - front else front := rfl

/-- The statement of a plan answers with the row at its place, counted from the front of the order. -/
theorem AnswersFrom.rows_selectPlanned (hd : AnswersFrom d q rows) (hids : q.DistinctIds rows)
    {first last : List JoinedRow} {row : JoinedRow}
    (horder : InOrderOf q.selectRows rows (first ++ row :: last)) (calls : List Call) :
    d.rows calls (q.selectPlanned (planFront rows.length first.length)) (some 1)
        (some (planFront rows.length first.length).offset.toNat) =
      .ok [q.selectRows.answerOf [row]] := by
  have hlength : rows.length = first.length + last.length + 1 := by
    rw [← horder.perm.length_eq, List.length_append, List.length_cons]
    omega
  cases hreversed : (planFront rows.length first.length).reversed with
  | false =>
    have hoffset : (planFront rows.length first.length).offset.toNat = first.length := by
      rw [planFront_offset_eq, hreversed]
      rfl
    obtain ⟨ordered, hordered, hrows⟩ :=
      hd.rows calls (some 1) (some first.length) q.selectRows (.inl rfl)
    obtain rfl := hordered.unique hids horder
    rw [Query.selectPlanned, hreversed, hoffset]
    refine hrows.trans ?_
    rw [List.map_append, List.map_cons, cutRows_one (List.length_map _)]
  | true =>
    have hoffset : (planFront rows.length first.length).offset.toNat = last.length := by
      rw [planFront_offset_eq, hreversed, if_pos rfl]
      omega
    obtain ⟨ordered, hordered, hrows⟩ :=
      hd.rows calls (some 1) (some last.length) q.reverse.selectRows (.inr rfl)
    obtain rfl : ordered = (first ++ row :: last).reverse := by
      rw [← hordered.reverse.unique hids horder, List.reverse_reverse]
    rw [Query.selectPlanned, hreversed, hoffset]
    refine hrows.trans ?_
    rw [List.reverse_append, List.reverse_cons, List.append_assoc, List.map_append,
      List.singleton_append, List.map_cons, cutRows_one (by rw [List.length_map, List.length_reverse])]
    rfl

/-- A row is read by the plan for the count of rows. -/
theorem fetchRow_run {n : Int} {plan : ScanPlan} {answer : List Row}
    (hcount : d.count before q.selectCount = .ok n) (hpos : 0 < n) (hplan : q.plan pick n = .ok plan)
    (hrows : d.rows (before ++ [.count q.selectCount]) (q.selectPlanned plan) (some 1)
      (some plan.offset.toNat) = .ok answer) :
    (fetchRow d pick q).run before =
      (.ok (answer.head?.map fun row => ⟨plan.rank, n, q.rowColumns, row⟩),
        before ++ [.count q.selectCount,
          .rows (q.selectPlanned plan) (some 1) (some plan.offset.toNat)]) := by
  rw [fetchRow, Asking.run_bind _ (askCount_run hcount), if_neg (by omega), hplan]
  refine (Asking.run_bind _ rfl).trans ?_
  rw [Asking.run_bind _ (askRows_run hrows), List.append_assoc]
  rfl

theorem fetchRow_run_of_count (hcount : d.count before q.selectCount = .ok 0) :
    (fetchRow d pick q).run before = (.ok none, before ++ [.count q.selectCount]) := by
  rw [fetchRow, Asking.run_bind _ (askCount_run hcount)]
  rfl

theorem fetchRow_run_of_plan {n : Int} {e : QueryError}
    (hcount : d.count before q.selectCount = .ok n) (hpos : 0 < n)
    (hplan : q.plan pick n = .error e) :
    (fetchRow d pick q).run before = (.error e, before ++ [.count q.selectCount]) := by
  rw [fetchRow, Asking.run_bind _ (askCount_run hcount), if_neg (by omega), hplan]
  rfl

/-- **What a fetch found**: the row at a place from the front of the order, under its rank and the
count of all rows. Reading forward past so many rows finds the same row; as many rows stand strictly
behind it as are counted before its rank; and to read it at most half of the rows were passed over. -/
structure ReadsForward (d : Driver) (q : Query) (rows : List JoinedRow) (before : List Call)
    (front rank : Nat) (row : JoinedRow) (fetched : Except QueryError (Option FoundRow) × List Call) :
    Prop where
  mem : row ∈ rows
  found : fetched.1 = .ok (some ⟨rank, rows.length, q.rowColumns, q.selectRows.answerOf [row]⟩)
  forward : ∀ calls, d.rows calls q.selectRows (some 1) (some front) =
    .ok [q.selectRows.answerOf [row]]
  behind : (q.rowsBehind row rows).length + 1 = rank
  asked : ∃ s offset, (s = q.selectRows ∨ s = q.reverse.selectRows) ∧ offset ≤ rows.length / 2 ∧
    fetched.2 = before ++ [.count q.selectCount, .rows s (some 1) (some offset)]

/-- **The row at a place is read**, from whichever end. -/
theorem AnswersFrom.readsForward (hd : AnswersFrom d q rows) (hids : q.DistinctIds rows)
    (before : List Call) {front : Nat} (hfront : front < rows.length)
    (hplan : q.plan pick rows.length = .ok (planFront rows.length front)) :
    ∃ row, ReadsForward d q rows before front (rows.length - front) row
      ((fetchRow d pick q).run before) := by
  obtain ⟨ordered, horder, -⟩ := hd.rows [] (some 1) (some front) q.selectRows (.inl rfl)
  have hlength := horder.perm.length_eq
  obtain ⟨first, row, last, rfl, rfl⟩ :
      ∃ first row last, ordered = first ++ row :: last ∧ first.length = front :=
    ⟨ordered.take front, ordered[front], ordered.drop (front + 1),
      by rw [← List.drop_eq_getElem_cons, List.take_append_drop],
      by rw [List.length_take]; omega⟩
  have hrows := hd.rows_selectPlanned hids horder
  have hrun := fetchRow_run (hd.count before) (by omega) hplan (hrows _)
  have hbounds := @planFront_offset rows.length first.length (by omega) (by omega)
  rw [hrun]
  refine ⟨row, ?_⟩
  constructor
  · exact horder.perm.mem_iff.mp (by simp)
  · have hrank : ((rows.length - first.length : Nat) : Int) = rows.length - first.length := by omega
    rw [hrank]
    rfl
  · intro calls
    obtain ⟨ordered', horder', hrows'⟩ :=
      hd.rows calls (some 1) (some first.length) q.selectRows (.inl rfl)
    rw [hrows', horder'.unique hids horder, List.map_append, List.map_cons,
      cutRows_one (List.length_map _)]
  · rw [horder.length_rowsBehind hids]
    simp only [List.length_append, List.length_cons] at hlength
    omega
  · refine ⟨_, _, ?_, ?_, rfl⟩
    · unfold Query.selectPlanned
      split
      · exact .inr rfl
      · exact .inl rfl
    · omega

end Fetch

/-! ## Fetching once and again -/

/-- What comes of fetching again and again, each time from a driver that was not asked before. -/
def fetchAll : List (Driver × Pick) → Query → List (Except QueryError (Option FoundRow) × List Call)
  | [], _ => []
  | (d, pick) :: rest, q =>
    let fetched := (fetchRow d pick q).run []
    fetched :: fetchAll rest (q.afterCalls fetched.2)

theorem fetchAll_setRandom (steps : List (Driver × Pick)) (q : Query) :
    fetchAll steps (q.setRandom false) =
      steps.map fun step => (fetchRow step.1 step.2 (q.setRandom false)).run [] := by
  have hstays : ∀ calls, (q.setRandom false).afterCalls calls = q.setRandom false := by
    intro calls
    unfold Query.afterCalls
    split <;> rfl
  induction steps with
  | nil => rfl
  | cons step rest ih => rw [fetchAll, hstays, ih, List.map_cons]

/-- **A fetch agrees with reading forward**, for a driver that answers from rows: there is nothing to
find among no rows; an index that no row has is out of range; the row of an index is found; and a
random row is found where it was picked, and no row is picked at random again. -/
structure FetchesForward (d : Driver) (pick : Pick) (q : Query) (rows : List JoinedRow)
    (before : List Call) : Prop where
  empty : rows = [] →
    (fetchRow d pick q).run before = (.ok none, before ++ [.count q.selectCount])
  outside : rows ≠ [] → q.random = false → q.index < 0 ∨ rows.length ≤ q.index →
    (fetchRow d pick q).run before =
      (.error (.indexOutOfRange q.index), before ++ [.count q.selectCount])
  inside : ∀ i : Nat, q.random = false → q.index = i → i < rows.length →
    ∃ row, ReadsForward d q rows before (rows.length - 1 - i) (i + 1) row
        ((fetchRow d pick q).run before) ∧
      ∀ field, q.AsksForLargest field → ∃ name column,
        q.scope.canonical field = .ok name ∧ q.scope.column name = .ok column ∧
          (rows.filter fun other =>
            ((row.cell column).order (other.cell column)).then
              ((row.cell q.idColumn).order (other.cell q.idColumn)) == .lt).length = i
  picked : ∀ p : Nat, q.random = true → pick rows.length = p → p < rows.length →
    (∃ row, ReadsForward d q rows before p (rows.length - p) row
      ((fetchRow d pick q).run before)) ∧
    ∀ later, fetchAll ((d, pick) :: later) q =
      (fetchRow d pick q).run [] ::
        later.map fun step => (fetchRow step.1 step.2 (q.setRandom false)).run []

/-- **A fetch agrees with reading forward**, for every query, index and list of matching rows. -/
theorem indexed_fetch_reads_forward {d : Driver} {q : Query} {rows : List JoinedRow}
    (hd : AnswersFrom d q rows) (hids : q.DistinctIds rows) (pick : Pick) (before : List Call) :
    FetchesForward d pick q rows before := by
  constructor
  · rintro rfl
    exact fetchRow_run_of_count (hd.count before)
  · intro hsome hrandom hout
    have hpos := List.length_pos_iff.mpr hsome
    refine fetchRow_run_of_plan (hd.count before) (by omega) ?_
    rw [Query.plan, hrandom]
    cases hplan : planScan rows.length q.index with
    | error e =>
      simp only [planScan] at hplan
      split at hplan <;> cases hplan
      rfl
    | ok plan =>
      obtain ⟨hlow, hhigh, -⟩ := planScan_eq_ok_iff.mp hplan
      omega
  · intro i hrandom hindex hi
    have hplan : q.plan pick rows.length =
        .ok (planFront rows.length ((rows.length - 1 - i : Nat) : Int)) := by
      rw [Query.plan, hrandom]
      refine planScan_eq_ok_iff.mpr ⟨by omega, by omega, ?_⟩
      congr 1
      omega
    obtain ⟨row, hrow⟩ := hd.readsForward hids before (by omega) hplan
    have hrank : rows.length - (rows.length - 1 - i) = i + 1 := by omega
    rw [hrank] at hrow
    refine ⟨row, hrow, fun field hfield => ?_⟩
    obtain ⟨name, hname, hcolumn, hdirection⟩ := hfield.isSortedBy
    refine ⟨name, q.sortColumn, hname, hcolumn, ?_⟩
    have hbehind := hrow.behind
    simp only [Query.rowsBehind, Query.compareRows, hdirection] at hbehind
    exact Nat.add_right_cancel hbehind
  · intro p hrandom hpick hp
    have hplan : q.plan pick rows.length = .ok (planFront rows.length p) := by
      rw [Query.plan, hrandom, hpick]
      rfl
    refine ⟨hd.readsForward hids before hp hplan, fun later => ?_⟩
    obtain ⟨row, hrow⟩ := hd.readsForward hids [] hp hplan
    obtain ⟨s, offset, -, -, hcalls⟩ := hrow.asked
    have hcleared : q.afterCalls ((fetchRow d pick q).run []).2 = q.setRandom false := by
      rw [hcalls]
      rfl
    rw [fetchAll, hcleared, fetchAll_setRandom]

/-- A game with its id and its experience level. -/
def levelGame (id level : Int) : JoinedRow :=
  [⟨Context.game.short, [⟨idField, .integer, true⟩, ⟨"xl", .integer, false⟩],
    [.integer id, .integer level]⟩]

/-- Games of which some have the same level. -/
def levelGames : List JoinedRow :=
  [levelGame 3 27, levelGame 1 12, levelGame 5 27, levelGame 2 12, levelGame 4 9]

/-- Over the built-in catalog, a fetch of the game of the second-highest level agrees with reading
forward. -/
theorem highest_level_reads_forward : ∃ q, q.AsksForLargest "xl" ∧ q.random = false ∧ q.index = 1 ∧
    AnswersFrom (listDriver levelGames) q levelGames ∧ q.DistinctIds levelGames ∧
    FetchesForward (listDriver levelGames) (fun _ => 0) q levelGames [] := by
  have hwords : (QueryWords.read .builtin .game "*" ["max=xl", "1"]).toOption.map
      (fun words => (words.rowSorts.filterMap rowSort?).getLast?) = some (some (true, "xl")) := by
    decide +kernel
  have hquery : (buildQuery .builtin .game "*" .none ["max=xl", "1"]).toOption.map
      (fun q => (q.random, q.index, decide (q.DistinctIds levelGames))) =
      some (false, 1, true) := by
    decide +kernel
  obtain ⟨words, hread, hlast⟩ := exists_ok_of_map hwords
  obtain ⟨q, hbuild, hrest⟩ := exists_ok_of_map hquery
  obtain ⟨hrandom, hrest⟩ := Prod.mk.inj hrest
  obtain ⟨hindex, hids⟩ := Prod.mk.inj hrest
  have hids := of_decide_eq_true hids
  have hanswers := answersFrom_listDriver q levelGames
  exact ⟨q, ⟨_, _, _, _, _, words, hread, hbuild, hlast⟩, hrandom, hindex, hanswers, hids,
    indexed_fetch_reads_forward hanswers hids (fun _ => 0) []⟩

end GameLog
