import GameLog.Report.Row

/-!
# Sorted rows of a report

The sorts of a report order rows by the values that they read, and rows that read the same values tie.
Rows that tie keep the order in which they come. If no two rows tie, the sorted rows are settled by which
rows there are.

Main statements:
* `compareRows` is an order up to ties;
* `stablySorted_sortRows`: rows are sorted, and rows that tie keep their order;
* `strict_sortRows`: without ties each row comes strictly before those behind it;
* `map_sortRows_eq`: without ties the order in which rows come does not show in what is sorted.
-/

namespace GameLog

/-- A sort condition orders rows by the values that it reads of them. -/
instance (c : SortCondition) : Std.TransCmp c.compare where
  eq_swap {a b} := by
    unfold SortCondition.compare
    split <;> exact Std.OrientedCmp.eq_swap
  isLE_trans {a b e} hab hbe := by
    unfold SortCondition.compare at hab hbe ⊢
    by_cases hreverse : c.reverse = true
    · rw [if_pos hreverse] at hab hbe ⊢
      exact Std.TransCmp.isLE_trans hab hbe
    · rw [if_neg hreverse] at hab hbe ⊢
      exact Std.TransCmp.isLE_trans hbe hab

/-- Sort conditions order rows. -/
instance (sorts : List SortCondition) : Std.TransCmp (compareRows sorts) := by
  induction sorts with
  | nil => exact { eq_swap := rfl, isLE_trans := fun _ _ => rfl }
  | cons c cs ih => exact inferInstanceAs (Std.TransCmp (compareLex c.compare (compareRows cs)))

theorem compareRows_congr {sorts : List SortCondition} {a a' b b' : RowValues}
    (ha : ∀ c ∈ sorts, c.field.value a = c.field.value a')
    (hb : ∀ c ∈ sorts, c.field.value b = c.field.value b') :
    compareRows sorts a b = compareRows sorts a' b' := by
  induction sorts with
  | nil => rfl
  | cons c cs ih =>
    obtain ⟨hac, ha⟩ := List.forall_mem_cons.mp ha
    obtain ⟨hbc, hb⟩ := List.forall_mem_cons.mp hb
    rw [compareRows, compareRows, ih ha hb, SortCondition.compare, SortCondition.compare, hac, hbc]

section

variable {α β : Type} {sorts : List SortCondition} {values : α → RowValues} {count : α → Int}

/-- **A list is sorted stably** from the order in which its elements were emitted: it has the same
elements, none is greater than one behind it, and those equal to any one keep their order. -/
structure StablySorted (order : α → α → Ordering) (emitted sorted : List α) : Prop where
  perm : sorted.Perm emitted
  ordered : sorted.Pairwise fun a b => order a b ≠ .gt
  stable : ∀ a, (sorted.filter fun b => order a b == .eq) = emitted.filter fun b => order a b == .eq

/-- **Merge sort is stable.** -/
theorem stablySorted_mergeSort (order : α → α → Ordering) [Std.TransCmp order] (rows : List α) :
    StablySorted order rows (rows.mergeSort fun a b => order a b != .gt) := by
  have htrans : ∀ a b c : α, (order a b != .gt) = true → (order b c != .gt) = true →
      (order a c != .gt) = true := by
    intro a b c hab hbc
    simp only [← Ordering.isLE_iff_ne_gt, bne_iff_ne] at hab hbc ⊢
    exact Std.TransCmp.isLE_trans hab hbc
  have htotal : ∀ a b : α, (order a b != .gt || order b a != .gt) = true := by
    intro a b
    have hswap : order b a = (order a b).swap := Std.OrientedCmp.eq_swap
    rw [hswap]
    cases order a b <;> simp
  have hperm := List.mergeSort_perm rows fun a b => order a b != .gt
  constructor
  · exact hperm
  · exact (List.pairwise_mergeSort htrans htotal rows).imp fun hle => bne_iff_ne.mp hle
  · intro a
    -- the elements equal to one are sorted as they are emitted, so sorting keeps them as a sublist
    have hsorted : (rows.filter fun b => order a b == .eq).Pairwise
        fun b c => (order b c != .gt) = true := by
      refine List.pairwise_of_forall_mem_list fun b hb c hc => ?_
      have hba := Std.OrientedCmp.eq_symm (beq_iff_eq.mp (List.mem_filter.mp hb).2)
      have hac := beq_iff_eq.mp (List.mem_filter.mp hc).2
      rw [Std.TransCmp.eq_trans hba hac]
      rfl
    have hsublist := (List.sublist_mergeSort htrans htotal hsorted List.filter_sublist).filter
      fun b => order a b == .eq
    rw [List.filter_filter] at hsublist
    simp only [Bool.and_self] at hsublist
    exact (hsublist.eq_of_length (hperm.filter _).length_eq.symm).symm

/-- How rows of a report are ordered beside each other: by the sorts, or with the larger first count in
front if there are none. -/
def siblingOrder (sorts : List SortCondition) (values : α → RowValues) (count : α → Int) (a b : α) :
    Ordering :=
  if sorts.isEmpty then compare (count b) (count a) else compareRows sorts (values a) (values b)

instance : Std.TransCmp (siblingOrder sorts values count) where
  eq_swap {a b} := by
    unfold siblingOrder
    split <;> exact Std.OrientedCmp.eq_swap
  isLE_trans {a b c} hab hbc := by
    unfold siblingOrder at hab hbc ⊢
    by_cases hsorts : sorts.isEmpty = true
    · rw [if_pos hsorts] at hab hbc ⊢
      exact Std.TransCmp.isLE_trans hbc hab
    · rw [if_neg hsorts] at hab hbc ⊢
      exact Std.TransCmp.isLE_trans hab hbc

/-- **Rows are sorted, and rows that tie keep their order.** -/
theorem stablySorted_sortRows (sorts : List SortCondition) (values : α → RowValues)
    (count : α → Int) (rows : List α) :
    StablySorted (siblingOrder sorts values count) rows (sortRows sorts values count rows) := by
  have hsame : sortRows sorts values count rows =
      rows.mergeSort fun a b => siblingOrder sorts values count a b != .gt := by
    unfold sortRows siblingOrder
    congr 1
    funext a b
    cases sorts.isEmpty with
    | true =>
      rw [if_pos rfl, if_pos rfl, Bool.eq_iff_iff, decide_eq_true_iff, bne_iff_ne]
      exact (Int.compare_ne_gt).symm
    | false => rfl
  rw [hsame]
  exact stablySorted_mergeSort _ rows

/-- **No two rows tie** under sort conditions. -/
def NoTies (sorts : List SortCondition) (values : α → RowValues) (rows : List α) : Prop :=
  rows.Pairwise fun a b => compareRows sorts (values a) (values b) ≠ .eq

instance (rows : List α) : Decidable (NoTies sorts values rows) :=
  inferInstanceAs (Decidable (rows.Pairwise _))

/-- **Without ties each row comes strictly before those behind it.** -/
theorem strict_sortRows {rows : List α} (h : NoTies sorts values (sortRows sorts values count rows)) :
    (sortRows sorts values count rows).Pairwise fun a b =>
      compareRows sorts (values a) (values b) = .lt := by
  by_cases hsorts : sorts = []
  · -- without conditions all rows tie
    subst hsorts
    exact h.imp fun hne => absurd rfl hne
  have hsorted := (stablySorted_sortRows sorts values count rows).ordered
  refine (hsorted.and h).imp fun {a b} ⟨hle, hne⟩ => ?_
  rw [siblingOrder, List.isEmpty_eq_false_iff.mpr hsorts, if_neg Bool.false_ne_true] at hle
  cases hcompare : compareRows sorts (values a) (values b) with
  | lt => rfl
  | eq => exact absurd hcompare hne
  | gt => exact absurd hcompare hle

/-- **Without ties the order in which rows come does not show**: rows of which the same shows, and of
which the sorts read the same where it does, show the same when they are sorted. -/
theorem map_sortRows_eq (view : α → β) {rows rows' : List α}
    (hperm : (rows.map view).Perm (rows'.map view))
    (hview : ∀ a b, view a = view b → ∀ c ∈ sorts, c.field.value (values a) = c.field.value (values b))
    (h : NoTies sorts values (sortRows sorts values count rows))
    (h' : NoTies sorts values (sortRows sorts values count rows')) :
    (sortRows sorts values count rows).map view = (sortRows sorts values count rows').map view := by
  have hstrict : ∀ {rows : List α}, NoTies sorts values (sortRows sorts values count rows) →
      ((sortRows sorts values count rows).map view).Pairwise fun x y =>
        ∃ a b, view a = x ∧ view b = y ∧ compareRows sorts (values a) (values b) = .lt := by
    intro rows h
    rw [List.pairwise_map]
    exact (strict_sortRows h).imp fun hlt => ⟨_, _, rfl, rfl, hlt⟩
  refine List.Perm.eq_of_pairwise ?_ (hstrict h) (hstrict h') ?_
  · -- what shows of two rows settles which one comes first
    rintro x y - - ⟨a, b, rfl, rfl, hab⟩ ⟨b', a', hb, ha, hba⟩
    rw [compareRows_congr (hview b' b hb) (hview a' a ha), Std.OrientedCmp.gt_of_lt hab] at hba
    cases hba
  · exact ((perm_sortRows ..).map view).trans (hperm.trans ((perm_sortRows ..).map view).symm)

theorem NoTies.perm {rows rows' : List α} (h : NoTies sorts values rows) (hperm : rows.Perm rows') :
    NoTies sorts values rows' :=
  (hperm.pairwise_iff fun hne heq => hne (Std.OrientedCmp.eq_symm heq)).mp h

/-- **Rows in strict order are the sorted rows.** -/
theorem sortRows_eq_of_strict {rows sorted : List α} (hperm : sorted.Perm rows)
    (h : sorted.Pairwise fun a b => compareRows sorts (values a) (values b) = .lt) :
    sortRows sorts values count rows = sorted := by
  have hties : NoTies sorts values sorted := h.imp fun hlt heq => by simp [hlt] at heq
  refine List.Perm.eq_of_pairwise (fun a b _ _ hab hba => ?_)
    (strict_sortRows (hties.perm (hperm.trans (perm_sortRows ..).symm))) h
    ((perm_sortRows ..).trans hperm.symm)
  rw [Std.OrientedCmp.gt_of_lt hab] at hba
  cases hba

theorem sortRows_eq {rows rows' : List α} (hperm : rows.Perm rows')
    (h : NoTies sorts values (sortRows sorts values count rows))
    (h' : NoTies sorts values (sortRows sorts values count rows')) :
    sortRows sorts values count rows = sortRows sorts values count rows' := by
  have hsame := map_sortRows_eq id (hperm.map id)
    (fun a b hab c _ => congrArg (fun a => c.field.value (values a)) hab) h h'
  rwa [List.map_id, List.map_id] at hsame

end

end GameLog
