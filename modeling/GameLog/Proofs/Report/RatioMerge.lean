import GameLog.Catalog.Builtin
import GameLog.Proofs.Outcome
import GameLog.Proofs.Report.Answers
import GameLog.Proofs.Report.KeyText
import Mathlib.Algebra.Ring.Int.Defs
import Mathlib.Data.List.DropRight

/-!
# Merging the answers of a ratio

The rows of several answers are merged one by one. The first answer seeds a row for each key; the
counts and the extra columns of a row are lists, one slot for each answer, which are made longer only
when a row of the key turns up. In the end they are padded with zeros.

What is merged so far has a closed form (`partialRow`): of the answers done, those behind the last one
with a row of the key have no slots yet. Each row that is merged keeps this form, also in an answer
that is not complete.

Main statements:
* `combine_partialRow`: a row of the key of another one is put in at its place, whatever is missing;
* `mergeAnswers_eq`: answers are merged into one row for each key of the first answer;
* `ratio_merge_exact`: the rows of a report on several queries are exactly these.
-/

namespace GameLog

open ReportRow

/-! ## The rows of a key -/

section Keys

variable (groups : Nat)

/-- The key of a row of an answer: the texts of its group cells, in lower case. -/
def rowKey (row : Row) : String := (ofRow groups row).mergeKey

/-- The rows of an answer that have a key. -/
def keyRows (key : String) (answer : List Row) : List Row :=
  answer.filter fun row => rowKey groups row == key

/-- The sum of the counts of the rows that have a key. -/
def keyCount (key : String) (answer : List Row) : Int :=
  ((keyRows groups key answer).map fun row => (ofRow groups row).count).sum

/-- The cell for an extra column of the first row that has a key, or zero if there is none. -/
def keyExtra (key : String) (slot : Nat) (answer : List Row) : Cell :=
  ((keyRows groups key answer).head?.bind fun row => (row.tail.drop groups)[slot]?).getD (.integer 0)

/-- The answers up to the last one that has a row of a key. -/
def filledAnswers (key : String) (answers : List (List Row)) : List (List Row) :=
  answers.rdropWhile fun answer => (keyRows groups key answer).isEmpty

/-- The merged row of a seed after some answers. -/
def partialRow (seed : Row) (answers : List (List Row)) : ReportRow where
  cells := (ofRow groups seed).cells
  counts := (filledAnswers groups (rowKey groups seed) answers).map
    (keyCount groups (rowKey groups seed))
  extras := (seed.tail.drop groups).mapIdx fun slot _ =>
    (filledAnswers groups (rowKey groups seed) answers).map
      (keyExtra groups (rowKey groups seed) slot)

/-- The merged row of a seed with a slot for each answer. -/
def fullRow (seed : Row) (answers : List (List Row)) : ReportRow where
  cells := (ofRow groups seed).cells
  counts := answers.map (keyCount groups (rowKey groups seed))
  extras := (seed.tail.drop groups).mapIdx fun slot _ =>
    answers.map (keyExtra groups (rowKey groups seed) slot)

end Keys

variable {groups : Nat}

theorem keyRows_append (key : String) (a b : List Row) :
    keyRows groups key (a ++ b) = keyRows groups key a ++ keyRows groups key b := List.filter_append ..

theorem keyRows_single {key : String} {row : Row} (h : rowKey groups row = key) :
    keyRows groups key [row] = [row] := by
  simp [keyRows, h]

theorem keyRows_single_ne {key : String} {row : Row} (h : rowKey groups row ≠ key) :
    keyRows groups key [row] = [] := by
  simp [keyRows, h]

theorem keyCount_append (key : String) (a b : List Row) :
    keyCount groups key (a ++ b) = keyCount groups key a + keyCount groups key b := by
  simp [keyCount, keyRows_append]

theorem keyCount_of_isEmpty {key : String} {answer : List Row}
    (h : (keyRows groups key answer).isEmpty = true) : keyCount groups key answer = 0 := by
  simp [keyCount, List.isEmpty_iff.mp h]

theorem keyExtra_of_isEmpty {key : String} {answer : List Row}
    (h : (keyRows groups key answer).isEmpty = true) (slot : Nat) :
    keyExtra groups key slot answer = .integer 0 := by
  simp [keyExtra, List.isEmpty_iff.mp h]

theorem keyCount_single {key : String} {row : Row} (h : rowKey groups row = key) :
    keyCount groups key [row] = (ofRow groups row).count := by
  simp [keyCount, keyRows_single h]

theorem keyExtra_single {key : String} {row : Row} (h : rowKey groups row = key) (slot : Nat) :
    keyExtra groups key slot [row] = slotValue (ofRow groups row) slot := by
  simp only [keyExtra, keyRows_single h, slotValue, ofRow, List.head?_cons, Option.bind_some,
    List.getElem?_map]
  cases (row.tail.drop groups)[slot]? <;> rfl

theorem keyExtra_append {key : String} {a : List Row} (h : (keyRows groups key a).isEmpty = false)
    (slot : Nat) (b : List Row) :
    keyExtra groups key slot (a ++ b) = keyExtra groups key slot a := by
  unfold keyExtra
  rw [keyRows_append]
  cases hrows : keyRows groups key a with
  | nil => simp [hrows] at h
  | cons row rows => rfl

theorem keyExtra_append_of_isEmpty {key : String} {a : List Row}
    (h : (keyRows groups key a).isEmpty = true) (slot : Nat) (b : List Row) :
    keyExtra groups key slot (a ++ b) = keyExtra groups key slot b := by
  simp [keyExtra, keyRows_append, List.isEmpty_iff.mp h]

/-! ## Answers that are filled -/

theorem filledAnswers_of_isEmpty {key : String} {answer : List Row}
    (h : (keyRows groups key answer).isEmpty = true) (before : List (List Row)) :
    filledAnswers groups key (before ++ [answer]) = filledAnswers groups key before :=
  List.rdropWhile_concat_pos _ _ _ h

theorem filledAnswers_of_not_isEmpty {key : String} {answer : List Row}
    (h : (keyRows groups key answer).isEmpty = false) (before : List (List Row)) :
    filledAnswers groups key (before ++ [answer]) = before ++ [answer] :=
  List.rdropWhile_concat_neg _ _ _ (by simp [h])

theorem length_filledAnswers_le (key : String) (answers : List (List Row)) :
    (filledAnswers groups key answers).length ≤ answers.length :=
  (List.rdropWhile_prefix _ answers).length_le

/-- **Padding makes up for the answers that are not filled**, if it is with what they have. -/
theorem padTo_filledAnswers {α : Type} {key : String} {value : α} {f : List Row → α}
    (hf : ∀ answer, (keyRows groups key answer).isEmpty = true → f answer = value)
    (answers : List (List Row)) :
    padTo answers.length value ((filledAnswers groups key answers).map f) = answers.map f := by
  induction answers using List.reverseRecOn with
  | nil => rfl
  | append_singleton before answer ih =>
    cases hempty : (keyRows groups key answer).isEmpty with
    | true =>
      have hle : ((filledAnswers groups key before).map f).length ≤ before.length := by
        rw [List.length_map]
        exact length_filledAnswers_le key before
      rw [filledAnswers_of_isEmpty hempty, List.map_append, ← ih, List.map_singleton,
        hf answer hempty, padTo, padTo, List.append_assoc, List.length_append,
        List.length_singleton, Nat.succ_sub hle, List.replicate_succ']
    | false =>
      rw [filledAnswers_of_not_isEmpty hempty, padTo, List.length_map, Nat.sub_self]
      exact List.append_nil _

theorem padTo_keyCount (key : String) (answers : List (List Row)) :
    padTo answers.length 0 ((filledAnswers groups key answers).map (keyCount groups key)) =
      answers.map (keyCount groups key) :=
  padTo_filledAnswers (fun _ h => keyCount_of_isEmpty h) answers

theorem padTo_keyExtra (key : String) (slot : Nat) (answers : List (List Row)) :
    padTo answers.length (.integer 0)
        ((filledAnswers groups key answers).map (keyExtra groups key slot)) =
      answers.map (keyExtra groups key slot) :=
  padTo_filledAnswers (fun _ h => keyExtra_of_isEmpty h slot) answers

/-! ## One row merged in -/

theorem modify_length_append {α : Type} (as : List α) (a : α) (f : α → α) :
    (as ++ [a]).modify as.length f = as ++ [f a] := by
  induction as with
  | nil => rfl
  | cons b as ih => rw [List.cons_append, List.length_cons, List.modify_succ_cons, ih]; rfl

/-- The row that a seed starts as. -/
theorem partialRow_seed (seed : Row) {cur : List Row}
    (h : (keyRows groups (rowKey groups seed) cur).isEmpty = true) :
    partialRow groups seed [cur ++ [seed]] = ofRow groups seed := by
  have hfilled : filledAnswers groups (rowKey groups seed) [cur ++ [seed]] = [cur ++ [seed]] := by
    refine filledAnswers_of_not_isEmpty ?_ []
    rw [keyRows_append, keyRows_single rfl]
    simp
  unfold partialRow
  rw [hfilled, List.map_singleton, keyCount_append, keyCount_of_isEmpty h, keyCount_single rfl]
  have hextras : (seed.tail.drop groups).mapIdx (fun slot _ =>
      [cur ++ [seed]].map (keyExtra groups (rowKey groups seed) slot)) =
      (ofRow groups seed).extras := by
    refine List.ext_getElem? fun slot => ?_
    simp only [List.getElem?_mapIdx, ofRow, List.getElem?_map, List.map_singleton,
      keyExtra_append_of_isEmpty h, keyExtra_single rfl, slotValue]
    cases (seed.tail.drop groups)[slot]? <;> rfl
  rw [hextras]
  simp [ofRow, count]

/-- **A row of the key of a seed is put in at its place**: into the slot of its answer if there is
one, else behind zeros for the answers that had no row of the key. -/
theorem combine_partialRow {seed row : Row} (hkey : rowKey groups row = rowKey groups seed)
    (before : List (List Row)) (cur : List Row) :
    (partialRow groups seed (before ++ [cur])).combine (ofRow groups row) before.length =
      partialRow groups seed (before ++ [cur ++ [row]]) := by
  have hfilled : filledAnswers groups (rowKey groups seed) (before ++ [cur ++ [row]]) =
      before ++ [cur ++ [row]] := by
    refine filledAnswers_of_not_isEmpty ?_ before
    rw [keyRows_append, keyRows_single hkey]
    simp
  cases hcur : (keyRows groups (rowKey groups seed) cur).isEmpty with
  | false =>
    -- the place has a slot, and the extra cells are those of an earlier row
    have hcurrent := filledAnswers_of_not_isEmpty hcur before
    have hlength : (before.map (keyCount groups (rowKey groups seed))).length = before.length :=
      List.length_map ..
    unfold combine partialRow
    simp only [hcurrent, hfilled]
    rw [if_pos (by simp), List.map_append, List.map_append, List.map_singleton, List.map_singleton,
      ← hlength, modify_length_append, keyCount_append, keyCount_single hkey]
    simp only [List.map_append, List.map_singleton, keyExtra_append hcur]
  | true =>
    -- the slots end at an earlier place, or right before this one
    have hcurrent := filledAnswers_of_isEmpty hcur before
    have hle : (filledAnswers groups (rowKey groups seed) before).length ≤ before.length :=
      length_filledAnswers_le (rowKey groups seed) before
    unfold combine partialRow pad
    simp only [hcurrent, hfilled]
    rw [if_neg (by rw [List.length_map]; omega)]
    simp only [padTo_keyCount, List.map_append, List.map_singleton, keyCount_append,
      keyCount_of_isEmpty hcur, keyCount_single hkey, Int.zero_add, keyExtra_append_of_isEmpty hcur,
      keyExtra_single hkey, ReportRow.mk.injEq, true_and]
    refine List.ext_getElem? fun slot => ?_
    rw [List.getElem?_mapIdx, List.getElem?_map, List.getElem?_mapIdx, List.getElem?_mapIdx]
    cases (seed.tail.drop groups)[slot]? with
    | none => rfl
    | some cell => simp only [Option.map_some, padTo_keyExtra]

theorem keyRows_append_ne {key : String} {row : Row} (h : rowKey groups row ≠ key)
    (cur : List Row) : keyRows groups key (cur ++ [row]) = keyRows groups key cur := by
  rw [keyRows_append, keyRows_single_ne h, List.append_nil]

theorem map_filledAnswers_ne {α : Type} {key : String} {row : Row} (h : rowKey groups row ≠ key)
    (before : List (List Row)) {cur : List Row} {f : List Row → α}
    (hf : f (cur ++ [row]) = f cur) :
    (filledAnswers groups key (before ++ [cur ++ [row]])).map f =
      (filledAnswers groups key (before ++ [cur])).map f := by
  have hrows := keyRows_append_ne h cur
  cases hcur : (keyRows groups key cur).isEmpty with
  | true => rw [filledAnswers_of_isEmpty hcur, filledAnswers_of_isEmpty (by rw [hrows, hcur])]
  | false =>
    rw [filledAnswers_of_not_isEmpty hcur, filledAnswers_of_not_isEmpty (by rw [hrows, hcur])]
    simp [hf]

/-- A row of another key changes nothing. -/
theorem partialRow_append_ne {seed row : Row} (hkey : rowKey groups row ≠ rowKey groups seed)
    (before : List (List Row)) (cur : List Row) :
    partialRow groups seed (before ++ [cur ++ [row]]) = partialRow groups seed (before ++ [cur]) := by
  have hrows := keyRows_append_ne hkey cur
  have hcount : keyCount groups (rowKey groups seed) (cur ++ [row]) =
      keyCount groups (rowKey groups seed) cur := by rw [keyCount, hrows]; rfl
  have hextra : ∀ slot, keyExtra groups (rowKey groups seed) slot (cur ++ [row]) =
      keyExtra groups (rowKey groups seed) slot cur := by
    intro slot
    rw [keyExtra, hrows]
    rfl
  unfold partialRow
  rw [map_filledAnswers_ne hkey before hcount]
  simp only [fun slot => map_filledAnswers_ne hkey before (hextra slot)]

/-! ## Rows merged in one after another -/

/-- The merged rows of some seeds after some answers. -/
def mergedSeeds (groups : Nat) (seeds : List Row) (answers : List (List Row)) : MergedRows :=
  seeds.map fun seed => (rowKey groups seed, partialRow groups seed answers)

theorem any_mergedSeeds (seeds : List Row) (answers : List (List Row)) (key : String) :
    (mergedSeeds groups seeds answers).any (·.1 == key) =
      seeds.any fun seed => rowKey groups seed == key := by
  simp [mergedSeeds, Function.comp_def]

/-- **A row of a seeded key keeps the form of what is merged.** -/
theorem mergeRow_seeded {seeds : List Row} {row : Row}
    (h : (seeds.any fun seed => rowKey groups seed == rowKey groups row) = true)
    (before : List (List Row)) (cur : List Row) :
    mergeRow before.length (mergedSeeds groups seeds (before ++ [cur])) (ofRow groups row) =
      mergedSeeds groups seeds (before ++ [cur ++ [row]]) := by
  have hany : (mergedSeeds groups seeds (before ++ [cur])).any
      (·.1 == (ofRow groups row).mergeKey) = true := (any_mergedSeeds ..).trans h
  unfold mergeRow
  simp only [hany, if_true]
  unfold mergedSeeds
  rw [List.map_map]
  refine List.map_congr_left fun seed _ => ?_
  by_cases hkey : rowKey groups row = rowKey groups seed
  · simp only [Function.comp, if_pos (show rowKey groups seed = (ofRow groups row).mergeKey from
      hkey.symm), combine_partialRow hkey]
  · simp only [Function.comp, if_neg (show ¬ rowKey groups seed = (ofRow groups row).mergeKey from
      fun h => hkey h.symm), partialRow_append_ne hkey]

theorem mergedSeeds_append_ne {seeds : List Row} {row : Row}
    (h : (seeds.any fun seed => rowKey groups seed == rowKey groups row) = false)
    (before : List (List Row)) (cur : List Row) :
    mergedSeeds groups seeds (before ++ [cur ++ [row]]) =
      mergedSeeds groups seeds (before ++ [cur]) := by
  refine List.map_congr_left fun seed hseed => ?_
  have hne : rowKey groups row ≠ rowKey groups seed := by
    intro hkey
    have := List.any_eq_false.mp h seed hseed
    simp [hkey] at this
  rw [partialRow_append_ne hne]

/-- **A row of a further answer keeps the form**, with a seeded key or without. -/
theorem mergeRow_further {before : List (List Row)} (hbefore : before ≠ []) (seeds : List Row)
    (cur : List Row) (row : Row) :
    mergeRow before.length (mergedSeeds groups seeds (before ++ [cur])) (ofRow groups row) =
      mergedSeeds groups seeds (before ++ [cur ++ [row]]) := by
  cases hany : seeds.any fun seed => rowKey groups seed == rowKey groups row with
  | true => exact mergeRow_seeded hany before cur
  | false =>
    have hnone : (mergedSeeds groups seeds (before ++ [cur])).any
        (·.1 == (ofRow groups row).mergeKey) = false := (any_mergedSeeds ..).trans hany
    have hplace : before.length ≠ 0 := by simpa using hbefore
    rw [mergedSeeds_append_ne hany]
    unfold mergeRow
    simp only [hnone, if_neg hplace, Bool.false_eq_true, if_false]

/-! ## Seeds -/

/-- The seeds with one more row, if it is the first of its key. -/
def addSeed (groups : Nat) (seeds : List Row) (row : Row) : List Row :=
  if seeds.any fun seed => rowKey groups seed == rowKey groups row then seeds else seeds ++ [row]

/-- The first row of each key of an answer. -/
def seedRows (groups : Nat) (answer : List Row) : List Row := answer.foldl (addSeed groups) []

theorem seedRows_append (answer : List Row) (row : Row) :
    seedRows groups (answer ++ [row]) = addSeed groups (seedRows groups answer) row := by
  rw [seedRows, List.foldl_append]
  rfl

/-- Every key of an answer has a seed, and no other key. -/
theorem any_seedRows (answer : List Row) (key : String) :
    ((seedRows groups answer).any fun seed => rowKey groups seed == key) =
      answer.any fun row => rowKey groups row == key := by
  induction answer using List.reverseRecOn with
  | nil => rfl
  | append_singleton answer row ih =>
    rw [seedRows_append, addSeed, List.any_append, ← ih, List.any_cons, List.any_nil, Bool.or_false]
    by_cases hany : ((seedRows groups answer).any fun seed =>
        rowKey groups seed == rowKey groups row) = true
    · rw [if_pos hany]
      by_cases hkey : rowKey groups row = key
      · rw [← hkey, hany]
        rfl
      · simp [hkey]
    · rw [if_neg hany, List.any_append]
      simp

theorem nodup_seedRows (answer : List Row) :
    ((seedRows groups answer).map (rowKey groups)).Nodup := by
  induction answer using List.reverseRecOn with
  | nil => exact List.nodup_nil
  | append_singleton answer row ih =>
    rw [seedRows_append, addSeed]
    by_cases hany : ((seedRows groups answer).any fun seed =>
        rowKey groups seed == rowKey groups row) = true
    · rw [if_pos hany]
      exact ih
    · rw [if_neg hany, List.map_append, List.map_singleton]
      refine List.nodup_append.mpr ⟨ih, List.pairwise_singleton _ _, ?_⟩
      intro key hkey key' hkey' heq
      obtain ⟨seed, hseed, rfl⟩ := List.mem_map.mp hkey
      rw [List.mem_singleton] at hkey'
      exact hany (List.any_eq_true.mpr ⟨seed, hseed, by simp [heq, hkey']⟩)

/-- A seed is the first row of its key. -/
theorem head?_keyRows_of_mem_seedRows {answer : List Row} :
    ∀ {seed : Row}, seed ∈ seedRows groups answer →
      (keyRows groups (rowKey groups seed) answer).head? = some seed := by
  induction answer using List.reverseRecOn with
  | nil =>
    intro seed hseed
    cases hseed
  | append_singleton answer row ih =>
    intro seed hseed
    have hold : seed ∈ seedRows groups answer →
        (keyRows groups (rowKey groups seed) (answer ++ [row])).head? = some seed := by
      intro hseed
      have hhead := ih hseed
      rw [keyRows_append]
      cases hrows : keyRows groups (rowKey groups seed) answer with
      | nil => rw [hrows] at hhead; cases hhead
      | cons first rows => rw [hrows] at hhead; exact hhead
    rw [seedRows_append, addSeed] at hseed
    by_cases hany : ((seedRows groups answer).any fun seed =>
        rowKey groups seed == rowKey groups row) = true
    · rw [if_pos hany] at hseed
      exact hold hseed
    · rw [if_neg hany] at hseed
      rcases List.mem_append.mp hseed with hseed | hseed
      · exact hold hseed
      · obtain rfl := List.mem_singleton.mp hseed
        have hnil : keyRows groups (rowKey groups seed) answer = [] := by
          rw [any_seedRows] at hany
          exact List.filter_eq_nil_iff.mpr fun row hrow hkey =>
            hany (List.any_eq_true.mpr ⟨row, hrow, hkey⟩)
        rw [keyRows_append, hnil, keyRows_single rfl]
        rfl

/-- **A row of the first answer keeps the form**, and may add a seed. -/
theorem mergeRow_first (cur : List Row) (row : Row) :
    mergeRow 0 (mergedSeeds groups (seedRows groups cur) [cur]) (ofRow groups row) =
      mergedSeeds groups (seedRows groups (cur ++ [row])) [cur ++ [row]] := by
  rw [seedRows_append, addSeed]
  cases hany : (seedRows groups cur).any fun seed => rowKey groups seed == rowKey groups row with
  | true => exact mergeRow_seeded hany [] cur
  | false =>
    have hnone : (mergedSeeds groups (seedRows groups cur) [cur]).any
        (·.1 == (ofRow groups row).mergeKey) = false := (any_mergedSeeds ..).trans hany
    have hempty : (keyRows groups (rowKey groups row) cur).isEmpty = true := by
      rw [any_seedRows, List.any_eq_false] at hany
      exact List.isEmpty_iff.mpr (List.filter_eq_nil_iff.mpr hany)
    have hrest := mergedSeeds_append_ne hany [] cur
    rw [List.nil_append, List.nil_append] at hrest
    unfold mergeRow
    simp only [hnone, Bool.false_eq_true, if_false, if_true]
    rw [← hrest, mergedSeeds, mergedSeeds, List.map_append, List.map_singleton,
      partialRow_seed row hempty]
    rfl

/-! ## Answers merged in -/

theorem mergedSeeds_append_nil (seeds : List Row) (before : List (List Row)) :
    mergedSeeds groups seeds (before ++ [[]]) = mergedSeeds groups seeds before := by
  refine List.map_congr_left fun seed _ => ?_
  have hfilled : filledAnswers groups (rowKey groups seed) (before ++ [[]]) =
      filledAnswers groups (rowKey groups seed) before := filledAnswers_of_isEmpty rfl before
  rw [partialRow, partialRow, hfilled]

theorem mergeAnswer_first (answer : List Row) :
    mergeAnswer groups 0 [] answer =
      mergedSeeds groups (seedRows groups answer) [answer] := by
  suffices h : ∀ cur rest : List Row,
      (rest.map (ofRow groups)).foldl (mergeRow 0) (mergedSeeds groups (seedRows groups cur) [cur]) =
        mergedSeeds groups (seedRows groups (cur ++ rest)) [cur ++ rest] from h [] answer
  intro cur rest
  induction rest generalizing cur with
  | nil => simp
  | cons row rest ih =>
    rw [List.map_cons, List.foldl_cons, mergeRow_first, ih, List.append_assoc]
    rfl

theorem mergeAnswer_further {before : List (List Row)} (hbefore : before ≠ []) (seeds : List Row)
    (answer : List Row) :
    mergeAnswer groups before.length (mergedSeeds groups seeds before) answer =
      mergedSeeds groups seeds (before ++ [answer]) := by
  rw [← mergedSeeds_append_nil seeds before]
  suffices h : ∀ cur rest : List Row, (rest.map (ofRow groups)).foldl (mergeRow before.length)
      (mergedSeeds groups seeds (before ++ [cur])) =
        mergedSeeds groups seeds (before ++ [cur ++ rest]) from h [] answer
  intro cur rest
  induction rest generalizing cur with
  | nil => simp
  | cons row rest ih =>
    rw [List.map_cons, List.foldl_cons, mergeRow_further hbefore, ih, List.append_assoc]
    rfl

/-- **Answers are merged into the seeds of the first answer.** -/
theorem mergeAnswers_eq (first : List Row) (rest : List (List Row)) :
    mergeAnswers groups 0 [] (first :: rest) =
      mergedSeeds groups (seedRows groups first) (first :: rest) := by
  rw [mergeAnswers, mergeAnswer_first]
  suffices h : ∀ before rest : List (List Row), before ≠ [] →
      mergeAnswers groups before.length (mergedSeeds groups (seedRows groups first) before) rest =
        mergedSeeds groups (seedRows groups first) (before ++ rest) from h [first] rest (by simp)
  intro before rest hbefore
  induction rest generalizing before with
  | nil => rw [List.append_nil]; rfl
  | cons answer rest ih =>
    have hnext := ih (before ++ [answer]) (by simp)
    rw [mergeAnswers, mergeAnswer_further hbefore]
    rw [List.length_append, List.length_singleton, List.append_assoc] at hnext
    exact hnext

theorem pad_partialRow (seed : Row) (answers : List (List Row)) :
    (partialRow groups seed answers).pad answers.length = fullRow groups seed answers := by
  unfold pad partialRow fullRow
  simp only [padTo_keyCount, ReportRow.mk.injEq, true_and]
  refine List.ext_getElem? fun slot => ?_
  rw [List.getElem?_map, List.getElem?_mapIdx, List.getElem?_mapIdx]
  cases (seed.tail.drop groups)[slot]? with
  | none => rfl
  | some cell => simp only [Option.map_some, padTo_keyExtra]

theorem mergedRows_eq (first second : List Row) (rest : List (List Row)) :
    mergedRows groups (first :: second :: rest) =
      (seedRows groups first).map fun seed => fullRow groups seed (first :: second :: rest) := by
  rw [mergedRows, mergeAnswers_eq, mergedSeeds, List.map_map]
  · exact List.map_congr_left fun seed _ => pad_partialRow seed (first :: second :: rest)
  · simp

/-! ## What a merge has to be -/

/-- The rows of an answer whose group cells spell a key. -/
def spelledRows (groups : Nat) (key : String) (answer : List Row) : List Row :=
  answer.filter fun row => keyText (row.tail.take groups) == key

/-- The count in front of a row of an answer. What is no whole number is read as a number and cut off. -/
def rowCount (row : Row) : Int :=
  match row.head? with
  | some (.integer n) => n
  | some cell => cell.asNumber.truncate
  | none => 0

/-- **Report rows are the exact merge of answers**: there is one for each key that the rows of the first
answer spell, with the group cells of the first of these rows; its count in each slot is the sum of the
counts of the rows that spell its key in the answer of that slot, and it has an extra column for each extra
cell of that first row, with the cell of the first row that spells its key in the answer of each slot, or
zero. -/
structure ExactMerge (groups : Nat) (first : List Row) (rest : List (List Row))
    (rows : List ReportRow) : Prop where
  nodup : (rows.map fun r => keyText r.cells).Nodup
  keys : ∀ key, (key ∈ rows.map fun r => keyText r.cells) ↔
    ∃ row ∈ first, keyText (row.tail.take groups) = key
  counts : ∀ r ∈ rows, r.counts = (first :: rest).map fun answer =>
    ((spelledRows groups (keyText r.cells) answer).map rowCount).sum
  extras : ∀ r ∈ rows, ∃ seed, (spelledRows groups (keyText r.cells) first).head? = some seed ∧
    r.cells = seed.tail.take groups ∧
    r.extras.length = (seed.tail.drop groups).length ∧
    ∀ slot < r.extras.length, r.extras[slot]? = some ((first :: rest).map fun answer =>
      ((spelledRows groups (keyText r.cells) answer).head?.bind fun row =>
        (row.tail.drop groups)[slot]?).getD (.integer 0))

theorem rowKey_eq_keyText (row : Row) : rowKey groups row = keyText (row.tail.take groups) :=
  mergeKey_eq (ofRow groups row)

theorem keyRows_eq (key : String) (answer : List Row) :
    keyRows groups key answer = spelledRows groups key answer := by
  simp only [keyRows, spelledRows, rowKey_eq_keyText]

theorem count_ofRow (row : Row) : (ofRow groups row).count = rowCount row := by
  unfold rowCount
  cases row with
  | nil => rfl
  | cons cell cells =>
    have hcount : (ofRow groups (cell :: cells)).count = cellCount cell := rfl
    rw [hcount]
    cases cell <;> simp only [List.head?_cons, cellCount]

theorem keyCount_eq (key : String) (answer : List Row) :
    keyCount groups key answer = ((spelledRows groups key answer).map rowCount).sum := by
  rw [keyCount, keyRows_eq]
  simp only [count_ofRow]

theorem keyExtra_eq (key : String) (slot : Nat) (answer : List Row) :
    keyExtra groups key slot answer = ((spelledRows groups key answer).head?.bind fun row =>
      (row.tail.drop groups)[slot]?).getD (.integer 0) := by
  rw [keyExtra, keyRows_eq]

theorem mem_keys_seedRows {first : List Row} {key : String} :
    key ∈ (seedRows groups first).map (rowKey groups) ↔
      ∃ row ∈ first, keyText (row.tail.take groups) = key := by
  have hany := @any_seedRows groups first key
  rw [Bool.eq_iff_iff, List.any_eq_true, List.any_eq_true] at hany
  rw [List.mem_map]
  simpa only [beq_iff_eq, rowKey_eq_keyText] using hany

theorem getElem?_extras_fullRow {seed : Row} {answers : List (List Row)} {slot : Nat}
    (h : slot < (fullRow groups seed answers).extras.length) :
    (fullRow groups seed answers).extras[slot]? =
      some (answers.map (keyExtra groups (rowKey groups seed) slot)) := by
  rw [fullRow, List.length_mapIdx] at h
  rw [fullRow, List.getElem?_mapIdx, List.getElem?_eq_getElem h, Option.map_some]

theorem exactMerge_of_perm {first : List Row} {rest : List (List Row)} {rows : List ReportRow}
    (h : rows.Perm ((seedRows groups first).map fun seed => fullRow groups seed (first :: rest))) :
    ExactMerge groups first rest rows := by
  have hkeys : (rows.map fun r => keyText r.cells).Perm ((seedRows groups first).map (rowKey groups)) := by
    refine (h.map fun r => keyText r.cells).trans (.of_eq ?_)
    rw [List.map_map]
    exact List.map_congr_left fun seed _ => (rowKey_eq_keyText seed).symm
  have hmem : ∀ r ∈ rows, ∃ seed ∈ seedRows groups first,
      r = fullRow groups seed (first :: rest) ∧ keyText r.cells = rowKey groups seed := by
    intro r hr
    obtain ⟨seed, hseed, rfl⟩ := List.mem_map.mp (h.mem_iff.mp hr)
    exact ⟨seed, hseed, rfl, (rowKey_eq_keyText seed).symm⟩
  constructor
  · exact hkeys.nodup_iff.mpr (nodup_seedRows first)
  · exact fun key => hkeys.mem_iff.trans mem_keys_seedRows
  · intro r hr
    obtain ⟨seed, -, hrow, hkey⟩ := hmem r hr
    rw [hkey, hrow]
    exact List.map_congr_left fun answer _ => keyCount_eq (rowKey groups seed) answer
  · intro r hr
    obtain ⟨seed, hseed, hrow, hkey⟩ := hmem r hr
    rw [hkey, hrow]
    refine ⟨seed, ?_, rfl, List.length_mapIdx, fun slot hslot => ?_⟩
    · rw [← keyRows_eq]
      exact head?_keyRows_of_mem_seedRows hseed
    · rw [getElem?_extras_fullRow hslot]
      exact congrArg some (List.map_congr_left fun answer _ => keyExtra_eq _ slot answer)

/-! ## Reports on several queries -/

theorem report_of_filters_nil {g : QueryGroup} (h : g.filters = []) (counts : List Int)
    (answers : List (List Row)) :
    ∃ report, g.report counts answers = some report ∧
      report.body.leaves.Perm (mergedRows g.primary.groupFields.length answers) := by
  unfold QueryGroup.report
  simp only [h, List.isEmpty_nil, Bool.not_true, Bool.false_and, Bool.false_eq_true, if_false]
  refine ⟨_, rfl, (leaves_reportBody _ _ _).trans (.of_eq ?_)⟩
  simp [keptRows]

theorem leaves_of_filters_nil {d : Driver} {g : QueryGroup} (h : g.filters = []) {before calls : List Call}
    {report : Report} (hrun : (askReport d g).run before = (.ok (some report), calls))
    {answers : List (List Row)}
    (hgroups : GroupsAre d (before ++ g.queries.map fun q => .count q.selectCount) g.queries answers) :
    report.body.leaves.Perm (mergedRows g.primary.groupFields.length answers) := by
  obtain ⟨counts, answers', -, hgroups', hreport⟩ := askReport_eq_some hrun
  obtain rfl := hgroups.unique hgroups'
  obtain ⟨shown, hshown, hleaves⟩ := report_of_filters_nil h counts answers
  obtain rfl := Option.some.inj (hshown.symm.trans hreport)
  exact hleaves

/-- **The rows of a report on several queries are the exact merge of the answers**: if there are no
filters, the driver counts every query and none of the counts is zero, and it reads the groups of
every query, then there is a report, whatever the answers are. -/
theorem ratio_merge_exact {d : Driver} {g : QueryGroup} {before : List Call} {counts : List Int}
    {answers : List (List Row)} (hratio : g.others ≠ []) (hfilters : g.filters = [])
    (hcounts : CountsAre d before g.queries counts)
    (hgroups : GroupsAre d (before ++ g.queries.map fun q => .count q.selectCount) g.queries
      answers) :
    ∃ first rest report calls, answers = first :: rest ∧
      (askReport d g).run before = (.ok (some report), calls) ∧
      ExactMerge g.primary.groupFields.length first rest report.body.leaves := by
  have hlength := hgroups.length_eq
  obtain ⟨calls, hrun⟩ := askReport_run hcounts hgroups
  obtain ⟨report, hreport, hleaves⟩ := report_of_filters_nil hfilters counts answers
  rw [hreport] at hrun
  rcases answers with _ | ⟨first, _ | ⟨second, rest⟩⟩
  · cases hlength
  · exact absurd (List.length_eq_zero_iff.mp (Nat.succ.inj hlength).symm) hratio
  · rw [mergedRows_eq] at hleaves
    exact ⟨first, second :: rest, report, calls, rfl, hrun, exactMerge_of_perm hleaves⟩

/-- The gods of three rows, of which one is written in two ways. -/
def godsAnswer : List Row :=
  [[.integer 1, .text "Trog"], [.integer 1, .text "TROG"], [.integer 1, .text "Xom"]]

/-- The gods of three other rows. -/
def furtherGodsAnswer : List Row := [[.integer 1, .text "trog"], [.integer 2, .text "Zin"]]

/-- A driver that counts three rows each time, and answers with these gods in turn. -/
def godsDriver : Driver where
  count _ _ := .ok 3
  rows before _ _ _ :=
    if before.any Call.isRows then .ok furtherGodsAnswer else .ok godsAnswer

/-- Over the built-in catalog, the report on two queries is the exact merge of these answers: there is a row
for each god of the first one, and the two spellings of a god are counted together. -/
theorem gods_merge_exact : ∃ g,
    QueryGroup.parse .builtin .game "*" ["s=god", "/", "xl>5"] = .ok g ∧ g.others ≠ [] ∧
      g.filters = [] ∧ ∃ report calls,
        (askReport godsDriver g).run [] = (.ok (some report), calls) ∧
        ExactMerge g.primary.groupFields.length godsAnswer [furtherGodsAnswer]
          report.body.leaves ∧
        report.body.leaves.Perm
          [⟨[.text "Trog"], [2, 1], []⟩, ⟨[.text "Xom"], [1, 0], []⟩] := by
  have hgroup : (QueryGroup.parse .builtin .game "*" ["s=god", "/", "xl>5"]).toOption.map (fun g =>
      (g.filters.length, g.primary.groupFields.length, g.queries.map fun q =>
        q.selectGroups.toOption.map fun st => st.groupBy.length)) =
      some (0, 1, [some 1, some 1]) := by decide +kernel
  obtain ⟨⟨primary, others, sorts, filters, extra, description⟩, hparse, hall⟩ :=
    exists_ok_of_map hgroup
  simp only [Prod.mk.injEq] at hall
  obtain ⟨hfilters, hfields, hqueries⟩ := hall
  have hnil := List.length_eq_zero_iff.mp hfilters
  obtain ⟨hprimary, hothers⟩ := List.cons.inj hqueries
  obtain ⟨second, rest, rfl, hsecond, hrest⟩ := List.map_eq_cons_iff.mp hothers
  obtain rfl := List.map_eq_nil_iff.mp hrest
  obtain ⟨st, hst, -⟩ := exists_ok_of_map hprimary
  obtain ⟨st', hst', -⟩ := exists_ok_of_map hsecond
  have hcounts : CountsAre godsDriver [] [primary, second] [3, 3] :=
    .cons rfl (by decide) (.cons rfl (by decide) (.nil _))
  have hgroups : GroupsAre godsDriver
      ([] ++ [primary, second].map fun q => .count q.selectCount) [primary, second]
      [godsAnswer, furtherGodsAnswer] :=
    .cons hst rfl (.cons hst' rfl (.nil _))
  obtain ⟨first, rest, report, calls, hanswers, hrun, hmerge⟩ :=
    ratio_merge_exact (g := ⟨primary, [second], sorts, filters, extra, description⟩) (by simp)
      hnil hcounts hgroups
  obtain ⟨rfl, rfl⟩ := List.cons.inj hanswers
  have hrows : mergedRows 1 [godsAnswer, furtherGodsAnswer] =
      [⟨[.text "Trog"], [2, 1], []⟩, ⟨[.text "Xom"], [1, 0], []⟩] := by decide +kernel
  have hleaves := leaves_of_filters_nil hnil hrun hgroups
  rw [hfields, hrows] at hleaves
  exact ⟨_, hparse, by simp, hnil, report, calls, hrun, hmerge, hleaves⟩

end GameLog
