import Mathlib.Data.List.Forall2

/-!
# Steps that may fail

What it means that a run of steps succeeds, each of which may fail: that each of them does.

Main statements:
* `bind_eq_ok`: one step behind another one;
* `mapM_eq_ok`: a step for each item of a list.
-/

namespace GameLog

/-- A step behind another one succeeds exactly if both do. -/
theorem bind_eq_ok {ε α β : Type} {x : Except ε α} {f : α → Except ε β} {b : β} :
    (x >>= f) = .ok b ↔ ∃ a, x = .ok a ∧ f a = .ok b := by
  cases x with
  | error e =>
    constructor
    · intro h
      cases h
    · rintro ⟨_, ha, _⟩
      cases ha
  | ok a =>
    constructor
    · exact fun h => ⟨a, rfl, h⟩
    · rintro ⟨_, ha, h⟩
      cases ha
      exact h

/-- A step with a function applied to its result succeeds exactly if the step does. -/
theorem map_eq_ok {ε α β : Type} {x : Except ε α} {f : α → β} {b : β} :
    x.map f = .ok b ↔ ∃ a, x = .ok a ∧ f a = b := by
  cases x with
  | error e =>
    constructor
    · intro h
      cases h
    · rintro ⟨_, ha, _⟩
      cases ha
  | ok a =>
    constructor
    · exact fun h => ⟨a, rfl, Except.ok.inj h⟩
    · rintro ⟨_, ha, rfl⟩
      cases ha
      rfl

theorem mapError_eq_ok {ε ε' α : Type} {x : Except ε α} {f : ε → ε'} {a : α} :
    x.mapError f = .ok a ↔ x = .ok a := by
  cases x <;> simp [Except.mapError]

/-- Steps that are seen alike lead to results that are seen alike, if the first step does. -/
theorem map_bind_congr {ε α β γ δ : Type} {x x' : Except ε α} {f : α → γ} {k k' : α → Except ε β}
    {g : β → δ} (hx : x.map f = x'.map f)
    (hk : ∀ a a', f a = f a' → (k a).map g = (k' a').map g) :
    (x >>= k).map g = (x' >>= k').map g := by
  cases x with
  | error e =>
    cases x' with
    | error e' => exact congrArg Except.error (Except.error.inj hx)
    | ok a' => cases hx
  | ok a =>
    cases x' with
    | error e' => cases hx
    | ok a' => exact hk a a' (Except.ok.inj hx)

theorem map_mapM_congr {ε α β γ δ : Type} {f : α → Except ε γ} {g : β → Except ε γ} {see : γ → δ}
    {as : List α} {bs : List β}
    (h : List.Forall₂ (fun a b => (f a).map see = (g b).map see) as bs) :
    (as.mapM f).map (List.map see) = (bs.mapM g).map (List.map see) := by
  induction h with
  | nil => rfl
  | cons hab _ ih =>
    rw [List.mapM_cons, List.mapM_cons]
    refine map_bind_congr hab fun c c' hc => map_bind_congr ih fun cs cs' hcs => ?_
    exact congrArg Except.ok (by rw [List.map_cons, List.map_cons, hc, hcs])

/-- Taking a step for each item of a list succeeds exactly if each does. -/
theorem mapM_eq_ok {ε α β : Type} {f : α → Except ε β} {as : List α} {bs : List β} :
    as.mapM f = .ok bs ↔ List.Forall₂ (fun a b => f a = .ok b) as bs := by
  induction as generalizing bs with
  | nil =>
    rw [List.mapM_nil, List.forall₂_nil_left_iff]
    exact ⟨fun h => (Except.ok.inj h).symm, fun h => congrArg Except.ok h.symm⟩
  | cons a as ih =>
    rw [List.mapM_cons, bind_eq_ok, List.forall₂_cons_left_iff]
    refine exists_congr fun b => ?_
    rw [bind_eq_ok, ← exists_and_left]
    refine exists_congr fun rest => and_congr_right fun _ => and_congr ih ?_
    exact ⟨fun h => (Except.ok.inj h).symm, fun h => congrArg Except.ok h.symm⟩

theorem exists_of_mem_mapM {ε α β : Type} {f : α → Except ε β} {as : List α} {bs : List β}
    (h : as.mapM f = .ok bs) {b : β} (hb : b ∈ bs) : ∃ a ∈ as, f a = .ok b := by
  have hall := mapM_eq_ok.mp h
  clear h
  induction hall with
  | nil => cases hb
  | cons hab _ ih =>
    rcases List.mem_cons.mp hb with rfl | hb
    · exact ⟨_, by simp, hab⟩
    · obtain ⟨a, ha, hf⟩ := ih hb
      exact ⟨a, by simp [ha], hf⟩

theorem exists_mapM_eq_ok {ε α β : Type} {f : α → Except ε β} {p : β → Prop} {as : List α}
    (h : ∀ a ∈ as, ∃ b, f a = .ok b ∧ p b) : ∃ bs, as.mapM f = .ok bs ∧ ∀ b ∈ bs, p b := by
  induction as with
  | nil => exact ⟨[], rfl, by simp⟩
  | cons a as ih =>
    obtain ⟨⟨b, hb, hpb⟩, hrest⟩ := List.forall_mem_cons.mp h
    obtain ⟨bs, hbs, hpbs⟩ := ih hrest
    refine ⟨b :: bs, ?_, List.forall_mem_cons.mpr ⟨hpb, hpbs⟩⟩
    rw [List.mapM_cons, hb, hbs]
    rfl

theorem ok_of_toOption {ε α : Type} {x : Except ε α} {a : α} (h : x.toOption = some a) : x = .ok a := by
  cases x with
  | error e => cases h
  | ok b => exact congrArg Except.ok (Option.some.inj h)

theorem exists_ok_of_map {ε α β : Type} {x : Except ε α} {f : α → β} {b : β}
    (h : x.toOption.map f = some b) : ∃ a, x = .ok a ∧ f a = b := by
  cases x with
  | error e => cases h
  | ok a => exact ⟨a, rfl, Option.some.inj h⟩

theorem exists_some_of_isSome {ε α γ : Type} {x : Except ε (Option α) × γ}
    (h : x.1.toOption.map Option.isSome = some true) : ∃ a, x = (.ok (some a), x.2) := by
  obtain ⟨found, hfound, hsome⟩ := exists_ok_of_map h
  obtain ⟨a, rfl⟩ := Option.isSome_iff_exists.mp hsome
  exact ⟨a, Prod.ext hfound rfl⟩

end GameLog
