import GameLog.Binary64.Basic

/-!
# The fewest digits that read back

A finite number is the only one of its format near the short decimals inside the interval of values
that round to it. The digits chosen are the fewest for which some decimal lies in that interval, and
of two such decimals the nearer one, at a tie the one with the even last digit.
Main statement: `within_fits`, a chosen decimal lies in the interval.
-/

namespace GameLog.Decimal

open GameLog

/-- The whole number `digits` times ten to the power `power`. -/
structure Scientific where
  digits : Nat
  power : Int

/-- The power of ten that is at most a positive quotient and more than a tenth of it. -/
def powerBelow (num den : Nat) : Int :=
  let shift : Int := (Nat.toDigits 10 den).length - (Nat.toDigits 10 num).length
  if den * Binary64.tenTo (-shift).toNat ≤ num * Binary64.tenTo shift.toNat then -shift else -shift - 1

/-- A value and the ends of its interval, each a numerator over one denominator. -/
structure Interval where
  low : Nat
  value : Nat
  high : Nat
  den : Nat
  closed : Bool

/-- Whether a whole number lies in an interval. -/
def Interval.has (i : Interval) (n : Nat) : Bool :=
  if i.closed then i.low ≤ n * i.den && n * i.den ≤ i.high
  else i.low < n * i.den && n * i.den < i.high

/-- The interval in units of a power of ten. -/
def Interval.over (i : Interval) (power : Int) : Interval :=
  let up := Binary64.tenTo (-power).toNat
  ⟨i.low * up, i.value * up, i.high * up, i.den * Binary64.tenTo power.toNat, i.closed⟩

/-- The values that round to a finite positive number; the even significand keeps its ends. -/
def intervalOf (x : Binary64) : Interval :=
  let m := 4 * x.significand
  let e := x.exponent - 2
  let up (n : Nat) := n <<< e.toNat
  let below := if x.significand = Binary64.leadingBit && -1074 < x.exponent then 1 else 2
  ⟨up (m - below), up m, up (m + 2), 1 <<< (-e).toNat, x.significand % 2 == 0⟩

/-- The whole number in an interval that is nearest to its value, of the two around the value. -/
def Interval.within (i : Interval) : Option Nat :=
  let n := i.value / i.den
  match i.has n, i.has (n + 1) with
  | false, false => none
  | true, false => some n
  | false, true => some (n + 1)
  | true, true =>
    let rest := 2 * (i.value % i.den)
    some (if rest < i.den || (rest == i.den && n % 2 == 0) then n else n + 1)

/-- The number found lies in the interval. -/
theorem within_fits {i : Interval} {n : Nat} (h : i.within = some n) : i.has n = true := by
  unfold Interval.within at h
  simp only at h
  split at h
  · simp at h
  · simp_all
  · simp_all
  · simp only [Option.some.injEq] at h
    split at h <;> simp_all

/-- Zeros at the end of the digits counted in the power instead. -/
def Scientific.normal (fuel : Nat) (s : Scientific) : Scientific :=
  match fuel with
  | 0 => s
  | fuel + 1 =>
    if s.digits ≠ 0 && s.digits % 10 == 0 then Scientific.normal fuel ⟨s.digits / 10, s.power + 1⟩
    else s

/-- The decimal of the fewest digits that reads back as a finite number, its sign left out. -/
def shortest (x : Binary64) : Scientific :=
  if x.isZero then ⟨0, 0⟩
  else
    let i := intervalOf x
    let top := powerBelow i.value i.den
    let tries := (List.range 18).findSome? fun (k : Nat) =>
      ((i.over (top - k)).within).map fun n => (⟨n, top - k⟩ : Scientific)
    (tries.getD ⟨0, 0⟩).normal 20

end GameLog.Decimal
