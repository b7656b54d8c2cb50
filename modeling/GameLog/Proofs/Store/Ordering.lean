import GameLog.Store.Select
import Mathlib.Algebra.Order.Field.Power
import Mathlib.Data.Rat.Cast.Order

/-!
# The order of cells and rows

Ordering rows by cells makes sense because cells are in one order, whatever sorts of cells there are:
numbers compare by their value, however they are written, and the sorts follow one another.

Main statements:
* `Cell.compareScaled_eq`: two numbers compare as the rational numbers that they stand for;
* `Cell.order` is an order up to cells that stand at one place;
* `pairwise_sortRowsBy`: rows that are put in order stand in order.
-/

namespace GameLog

namespace Cell

/-! ## Numbers -/

/-- The rational number that a multiple of a power of two stands for. -/
def ratio (x : Int × Int) : ℚ := x.1 * 2 ^ x.2

/-- Two numbers compare by their values, whatever power of two they are multiples of. -/
theorem compareScaled_eq (a b : Int × Int) : compareScaled a b = compare (ratio a) (ratio b) := by
  have hcommon : ∀ x : Int × Int, ∀ e ≤ x.2,
      ratio x = ((x.1 <<< (x.2 - e).toNat : Int) : ℚ) * 2 ^ e := by
    intro x e he
    have hpower : (2 : ℚ) ^ x.2 = 2 ^ (x.2 - e).toNat * 2 ^ e := by
      rw [← zpow_natCast, Int.toNat_of_nonneg (by omega), ← zpow_add₀ (by norm_num)]
      congr 1
      omega
    rw [ratio, hpower, Int.shiftLeft_eq]
    push_cast
    rw [mul_assoc]
  have hmono : StrictMono fun n : Int => (n : ℚ) * 2 ^ min a.2 b.2 := fun m n h =>
    mul_lt_mul_of_pos_right (Int.cast_lt.mpr h) (by positivity)
  rw [hcommon a (min a.2 b.2) (min_le_left _ _), hcommon b (min a.2 b.2) (min_le_right _ _),
    ← cmp_eq_compare, hmono.cmp_map_eq, cmp_eq_compare]
  rfl

/-! ## Cells -/

/-- The text of a cell that is a text. -/
def asText : Cell → String
  | text s => s
  | _ => ""

/-- The bytes of a cell that is bytes. -/
def asBytes : Cell → List Nat
  | blob bytes => bytes.map UInt8.toNat
  | _ => []

theorem order_eq : order = compareLex (compareOn sortPlace)
    (compareLex (compareOn fun c => ratio c.scaled)
      (compareLex (compareOn asText) (compareOn asBytes))) := by
  funext a b
  cases a <;> cases b <;>
    simp [order, compareLex, compareOn, sortPlace, compareScaled_eq, asText, asBytes, scaled,
      Nat.compare_eq_ite_lt]

/-- Cells are in one order. -/
instance : Std.TransCmp order := by
  rw [order_eq]
  infer_instance

/-- How two cells compare in a direction. -/
def orderIn : Direction → Cell → Cell → Ordering
  | .ascending, a, b => a.order b
  | .descending, a, b => b.order a

theorem orderIn_flip (d : Direction) (a b : Cell) : orderIn d.flip a b = orderIn d b a := by
  cases d <;> rfl

/-- Cells are in one order in each direction. -/
instance (d : Direction) : Std.TransCmp (orderIn d) := by
  cases d with
  | ascending => exact inferInstanceAs (Std.TransCmp order)
  | descending => exact (Std.TransCmp.opposite : Std.TransCmp fun a b => order b a)

theorem sameAs_iff_orderIn (d : Direction) {a b : Cell} :
    a.sameAs b = true ↔ orderIn d a b = .eq := by
  cases d with
  | ascending => exact beq_iff_eq
  | descending => exact beq_iff_eq.trans Std.OrientedCmp.eq_comm

end Cell

/-! ## Lists of cells -/

variable {d : Direction} {ds : List Direction} {a b : Cell} {as bs cs : List Cell}

theorem mayPrecede_cons : mayPrecede (d :: ds) (a :: as) (b :: bs) = true ↔
    Cell.orderIn d a b = .lt ∨ Cell.orderIn d a b = .eq ∧ mayPrecede ds as bs = true := by
  cases d with
  | ascending =>
    rw [mayPrecede, Cell.orderIn]
    cases a.order b <;> simp
  | descending =>
    rw [mayPrecede, Cell.orderIn]
    cases b.order a <;> simp

theorem mayPrecede_flip (ds : List Direction) (as bs : List Cell) :
    mayPrecede (ds.map Direction.flip) as bs = mayPrecede ds bs as := by
  induction ds generalizing as bs with
  | nil => simp [mayPrecede]
  | cons d ds ih =>
    cases as <;> cases bs
    case cons.cons a as b bs =>
      have hplace : Cell.orderIn d a b = .eq ↔ Cell.orderIn d b a = .eq := Std.OrientedCmp.eq_comm
      rw [Bool.eq_iff_iff, List.map_cons, mayPrecede_cons, mayPrecede_cons, Cell.orderIn_flip, ih,
        ← hplace]
    all_goals rfl

/-- One of two lists of cells may always stand before the other one. -/
theorem mayPrecede_total (ds : List Direction) (as bs : List Cell) :
    mayPrecede ds as bs = true ∨ mayPrecede ds bs as = true := by
  induction ds generalizing as bs with
  | nil => simp [mayPrecede]
  | cons d ds ih =>
    cases as <;> cases bs
    case cons.cons a as b bs =>
      rw [mayPrecede_cons, mayPrecede_cons]
      cases hab : Cell.orderIn d a b with
      | lt => exact .inl (.inl rfl)
      | eq =>
        have hba : Cell.orderIn d b a = .eq := Std.OrientedCmp.eq_symm hab
        simpa [hba] using ih as bs
      | gt => exact .inr (.inl (Std.OrientedCmp.lt_of_gt hab))
    all_goals simp [mayPrecede]

/-- What may stand before a second list, which may stand before a third one, may stand before it. -/
theorem mayPrecede_trans (ha : as.length = ds.length) (hb : bs.length = ds.length)
    (hc : cs.length = ds.length) (hab : mayPrecede ds as bs = true)
    (hbc : mayPrecede ds bs cs = true) : mayPrecede ds as cs = true := by
  induction ds generalizing as bs cs with
  | nil => simp [mayPrecede]
  | cons d ds ih =>
    obtain ⟨a, as, rfl⟩ := List.exists_cons_of_length_eq_add_one ha
    obtain ⟨b, bs, rfl⟩ := List.exists_cons_of_length_eq_add_one hb
    obtain ⟨c, cs, rfl⟩ := List.exists_cons_of_length_eq_add_one hc
    simp only [List.length_cons, Nat.add_right_cancel_iff] at ha hb hc
    rw [mayPrecede_cons] at hab hbc ⊢
    rcases hab with hab | ⟨hab, has⟩ <;> rcases hbc with hbc | ⟨hbc, hbs⟩
    · exact .inl (Std.TransCmp.lt_trans hab hbc)
    · exact .inl (Std.TransCmp.lt_of_lt_of_eq hab hbc)
    · exact .inl (Std.TransCmp.lt_of_eq_of_lt hab hbc)
    · exact .inr ⟨Std.TransCmp.eq_trans hab hbc, ih ha hb hc has hbs⟩

/-- **Items that are put in order stand in order.** -/
theorem pairwise_sortRowsBy {α : Type} {keys : α → List Cell}
    (hkeys : ∀ item, (keys item).length = ds.length) (items : List α) :
    (sortRowsBy ds keys items).Pairwise fun a b => mayPrecede ds (keys a) (keys b) = true := by
  refine List.pairwise_mergeSort (fun a b c hab hbc => ?_) (fun a b => ?_) items
  · exact mayPrecede_trans (hkeys a) (hkeys b) (hkeys c) hab hbc
  · exact Bool.or_eq_true_iff.mpr (mayPrecede_total ds (keys a) (keys b))

end GameLog
