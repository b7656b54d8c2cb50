import GameLog.Time.Moment
import Mathlib

/-!
# The calendar

Days are counted across years and months, and a day of the count is the day of one year and month. The
seconds counted to a moment therefore come back to it, and grow with its year, its month, its day and its
time of day, in this order.

Main statements:
* `yearOf_spec`, `monthAndDay_spec`: a day lies in the year and the month that it is found in;
* `ofSeconds_spec`: a count of seconds is the count to the moment that it is read as;
* `seconds_lt_iff`: the earlier moment has the smaller parts, the first ones first.
-/

namespace GameLog.Moment

variable {year days : Int} {month day : Nat}

/-! ## Years -/

theorem daysBeforeYear_mono {a b : Int} (h : a ≤ b) : daysBeforeYear a ≤ daysBeforeYear b := by
  simp only [daysBeforeYear]
  omega

/-- **A day lies in its year.** -/
theorem yearOf_spec (days : Int) :
    daysBeforeYear (yearOf days) ≤ days ∧ days < daysBeforeYear (yearOf days + 1) := by
  -- the year guessed from the mean length of a year is the next one at most, or the one before
  have hlow : daysBeforeYear (days * 400 / 146097 + 1 - 1) ≤ days := by
    simp only [daysBeforeYear]
    omega
  have hhigh : days < daysBeforeYear (days * 400 / 146097 + 1 + 1 + 1) := by
    simp only [daysBeforeYear]
    omega
  unfold yearOf
  dsimp only
  split
  · rename_i hbefore
    exact ⟨hlow, by rwa [Int.sub_add_cancel]⟩
  · rename_i hbefore
    split
    · rename_i hbehind
      exact ⟨hbehind, hhigh⟩
    · rename_i hbehind
      exact ⟨Int.not_lt.mp hbefore, Int.not_le.mp hbehind⟩

/-! ## Months -/

theorem validDate_iff : validDate year month day = true ↔ 1 ≤ day ∧ day ≤ monthLength year month := by
  simp [validDate]

theorem daysBeforeMonth_eq (year : Int) (month : Nat) :
    daysBeforeMonth year month = ((monthLengths year).take (month - 1)).sum := rfl

theorem daysBeforeMonth_succ (year : Int) (month : Nat) :
    daysBeforeMonth year (month + 1) = daysBeforeMonth year month + monthLength year month := by
  cases month with
  | zero => rfl
  | succ before =>
    rw [daysBeforeMonth_eq, daysBeforeMonth_eq, monthLength, if_neg (Nat.succ_ne_zero before)]
    simp only [Nat.add_sub_cancel, List.take_add_one, List.sum_append]
    cases (monthLengths year)[before]? <;> simp

theorem daysBeforeMonth_mono (year : Int) {a b : Nat} (h : a ≤ b) :
    daysBeforeMonth year a ≤ daysBeforeMonth year b := by
  induction h with
  | refl => exact Nat.le_refl _
  | step _ ih =>
    rw [Nat.succ_eq_add_one, daysBeforeMonth_succ]
    exact Nat.le_add_right_of_le ih

/-- **A day of a run of months lies in one of them.** -/
theorem monthAndDay_spec (first : Nat) {lengths : List Nat} {rest : Nat} (h : rest < lengths.sum) :
    ∃ i day length, monthAndDay first lengths rest = (first + i, day) ∧ lengths[i]? = some length ∧
      1 ≤ day ∧ day ≤ length ∧ (lengths.take i).sum + (day - 1) = rest := by
  induction lengths generalizing first rest with
  | nil => cases h
  | cons length lengths ih =>
    rw [monthAndDay]
    split
    · rename_i hhere
      exact ⟨0, rest + 1, length, rfl, rfl, by omega, hhere, by simp⟩
    · rename_i hlater
      rw [List.sum_cons] at h
      obtain ⟨i, day, length', hfound, hlength, hfirst, hlast, hsum⟩ :=
        ih (first + 1) (show rest - length < lengths.sum by omega)
      refine ⟨i + 1, day, length', ?_, hlength, hfirst, hlast, ?_⟩
      · rw [hfound, Nat.add_assoc, Nat.add_comm 1 i]
      · rw [List.take_succ_cons, List.sum_cons]
        omega

/-! ## Counting there and back -/

/-- **A count of seconds is the count to the moment that it is read as**, and there is such a moment. -/
theorem ofSeconds_spec (n : Int) : (ofSeconds n).valid = true ∧ (ofSeconds n).seconds = n := by
  obtain ⟨hstart, hend⟩ := yearOf_spec (n / 86400 + epochDays)
  rw [daysBeforeYear_succ, daysBeforeMonth_eq] at hend
  obtain ⟨i, day, length, hfound, hlength, hfirst, hlast, hsum⟩ := monthAndDay_spec 1
    (show (n / 86400 + epochDays - daysBeforeYear (yearOf (n / 86400 + epochDays))).toNat <
      (monthLengths (yearOf (n / 86400 + epochDays))).sum by
        change _ < _ + ((monthLengths _).sum : Int) at hend
        omega)
  have hmoment : ofSeconds n = ⟨yearOf (n / 86400 + epochDays), 1 + i, day,
      (n % 86400).toNat / 3600, (n % 86400).toNat % 3600 / 60, (n % 86400).toNat % 60⟩ := by
    unfold ofSeconds
    simp only [hfound]
  rw [hmoment]
  constructor
  · have hmonth : monthLength (yearOf (n / 86400 + epochDays)) (1 + i) = length := by
      rw [monthLength, if_neg (by omega), Nat.add_sub_cancel_left, hlength, Option.getD_some]
    rw [valid, Bool.and_eq_true, validDate_iff, hmonth]
    refine ⟨⟨hfirst, hlast⟩, ?_⟩
    simp only [validTime, Bool.and_eq_true, decide_eq_true_eq]
    omega
  · rw [seconds, daysTo, daysBeforeMonth_eq, Nat.add_sub_cancel_left]
    dsimp only
    omega

/-! ## The order of moments -/

theorem daysTo_lt_of_year (h : validDate year month day = true) {year' : Int} (hyear : year < year')
    (month' day' : Nat) : daysTo year month day < daysTo year' month' day' := by
  have hmonth := month_le_of_validDate h
  obtain ⟨hfirst, hlast⟩ := validDate_iff.mp h
  have hnext := daysBeforeMonth_succ year month
  have hmonths := daysBeforeMonth_mono year (show month + 1 ≤ 13 by omega)
  have hyears := daysBeforeYear_mono (show year + 1 ≤ year' from hyear)
  rw [daysBeforeYear_succ] at hyears
  rw [daysTo, daysTo]
  omega

theorem daysTo_lt_of_month (h : validDate year month day = true) {month' : Nat}
    (hmonth : month < month') (day' : Nat) : daysTo year month day < daysTo year month' day' := by
  obtain ⟨hfirst, hlast⟩ := validDate_iff.mp h
  have hnext := daysBeforeMonth_succ year month
  have hmonths := daysBeforeMonth_mono year (show month + 1 ≤ month' from hmonth)
  rw [daysTo, daysTo]
  omega

/-- The parts of a moment, the greater ones first. -/
def parts (m : Moment) : List Int := [m.year, m.month, m.day, m.hour, m.minute, m.second]

theorem parts_injective {m n : Moment} (h : m.parts = n.parts) : m = n := by
  cases m
  cases n
  simp only [parts, List.cons.injEq, Int.ofNat_inj] at h
  simpa using h

variable {m n : Moment}

theorem seconds_lt_of_parts (hm : m.valid = true) (hn : n.valid = true) (h : m.parts < n.parts) :
    m.seconds < n.seconds := by
  rw [valid, Bool.and_eq_true] at hm hn
  obtain ⟨hmdate, hmtime⟩ := hm
  obtain ⟨hndate, hntime⟩ := hn
  simp only [validTime, Bool.and_eq_true, decide_eq_true_eq] at hmtime hntime
  rw [seconds, seconds]
  simp only [parts, List.cons_lt_cons_iff, List.not_lt_nil, and_false, or_false] at h
  rcases h with hyear | ⟨hyear, hmonth | ⟨hmonth, h⟩⟩
  · have := daysTo_lt_of_year hmdate hyear n.month n.day
    omega
  · have := daysTo_lt_of_month hmdate (Int.ofNat_lt.mp hmonth) n.day
    rw [hyear] at this ⊢
    omega
  · have hmday := (validDate_iff.mp hmdate).1
    have hnday := (validDate_iff.mp hndate).1
    rw [hyear, Int.ofNat_inj.mp hmonth, daysTo, daysTo]
    omega

/-- **The earlier moment has the smaller parts**, the first ones first. -/
theorem seconds_lt_iff (hm : m.valid = true) (hn : n.valid = true) :
    m.seconds < n.seconds ↔ m.parts < n.parts := by
  refine ⟨fun h => ?_, seconds_lt_of_parts hm hn⟩
  rcases lt_trichotomy m.parts n.parts with hlt | heq | hgt
  · exact hlt
  · rw [parts_injective heq] at h
    exact absurd h (lt_irrefl _)
  · exact absurd (h.trans (seconds_lt_of_parts hn hm hgt)) (lt_irrefl _)

theorem seconds_inj (hm : m.valid = true) (hn : n.valid = true) : m.seconds = n.seconds ↔ m = n := by
  refine ⟨fun h => ?_, congrArg seconds⟩
  rcases lt_trichotomy m.parts n.parts with hlt | heq | hgt
  · exact absurd h (seconds_lt_of_parts hm hn hlt).ne
  · exact parts_injective heq
  · exact absurd h (seconds_lt_of_parts hn hm hgt).ne'

end GameLog.Moment
