/-!
# Numbers of the format binary64

A number of the format is kept as its 64 bits, so that not-a-number values of either sign stay
apart: reports sort by the order of the bits. Arithmetic is exact arithmetic on whole numbers
followed by one rounding to the nearest number of the format, a half to the even neighbour.

Main statements:
* `rank_inj`: numbers of one place in the sort order have the same bits;
* `roundEven_near`: rounding a quotient moves it by half a unit at most.
-/

namespace GameLog

/-- A number of the format binary64, by its bits. -/
structure Binary64 where
  bits : UInt64
deriving DecidableEq, Repr

namespace Binary64

/-! ## Parts -/

/-- The sign bit, two to the power 63. -/
def signBit : Nat := 0x8000000000000000

/-- The bit of a significand that is left out, two to the power 52. -/
def leadingBit : Nat := 0x10000000000000

/-- Whether the sign bit is set. -/
def negative (x : Binary64) : Bool := signBit ≤ x.bits.toNat

/-- The bits below the sign, as a number. -/
def magnitude (x : Binary64) : Nat := x.bits.toNat % signBit

/-- The magnitude of infinity. -/
def infinite : Nat := 0x7FF * leadingBit

/-- Not a number. -/
def isNaN (x : Binary64) : Bool := infinite < x.magnitude

/-- Infinity of either sign. -/
def isInfinite (x : Binary64) : Bool := x.magnitude == infinite

/-- Zero of either sign. -/
def isZero (x : Binary64) : Bool := x.magnitude == 0

/-- The whole number that a finite number is a multiple of two to some power of. -/
def significand (x : Binary64) : Nat :=
  if x.magnitude < leadingBit then x.magnitude else leadingBit + x.magnitude % leadingBit

/-- The power of two that the significand counts. -/
def exponent (x : Binary64) : Int :=
  if x.magnitude < leadingBit then -1074 else (x.magnitude / leadingBit : Nat) - 1075

/-- The number of a sign and a magnitude. -/
def ofMagnitude (neg : Bool) (magnitude : Nat) : Binary64 :=
  ⟨UInt64.ofNat (magnitude + if neg then signBit else 0)⟩

/-- Zero of a sign. -/
def zero (neg : Bool) : Binary64 := ofMagnitude neg 0

/-- Infinity. -/
def infinity (neg : Bool) : Binary64 := ofMagnitude neg infinite

/-- The quiet value that is not a number. Undefined operations give the negative one. -/
def notANumber (neg : Bool) : Binary64 := ofMagnitude neg (infinite + leadingBit / 2)

/-! ## Rounding -/

/-- The quotient rounded to the nearest whole number, a half to the even one. -/
def roundEven (num den : Nat) : Nat :=
  let q := num / den
  let r := num % den
  if 2 * r < den then q else if den < 2 * r then q + 1 else if q % 2 = 0 then q else q + 1

/-- Rounding moves a quotient by half a unit at most. -/
theorem roundEven_near (num : Nat) {den : Nat} (h : 0 < den) :
    2 * num ≤ 2 * (roundEven num den * den) + den ∧
      2 * (roundEven num den * den) ≤ 2 * num + den := by
  have hd := Nat.div_add_mod num den
  have hr := Nat.mod_lt num h
  have hq : (num / den + 1) * den = den * (num / den) + den := by
    rw [Nat.add_mul, Nat.mul_comm]; simp
  have hq' : num / den * den = den * (num / den) := Nat.mul_comm _ _
  unfold roundEven
  simp only
  split
  · rw [hq']; omega
  · split
    · rw [hq]; omega
    · split
      · rw [hq']; omega
      · rw [hq]; omega

/-- A quotient over a power of two, as a fraction. -/
def overPower (num den : Nat) (e : Int) : Nat × Nat :=
  (num <<< (-e).toNat, den <<< e.toNat)

/-- The exponent at which a positive quotient has a significand of 53 bits, or the least one. -/
def exponentOf (num den : Nat) : Int :=
  let e : Int := (num.log2 : Int) - den.log2 - 52
  let (a, b) := overPower num den e
  max (-1074) (if a < b * leadingBit then e - 1 else e)

/-- The number nearest to a quotient. -/
def ofRatio (neg : Bool) (num den : Nat) : Binary64 :=
  if num = 0 then zero neg
  else
    let e := exponentOf num den
    let (a, b) := overPower num den e
    let magnitude := roundEven a b + (e + 1074).toNat * leadingBit
    if infinite ≤ magnitude then infinity neg else ofMagnitude neg magnitude

/-- The number nearest to a whole number. -/
def ofInt (n : Int) : Binary64 := ofRatio (n < 0) n.natAbs 1

/-- A power of ten. -/
def tenTo (n : Nat) : Nat := Nat.pow 10 n

/-- The number nearest to a multiple of a power of ten. -/
def ofDecimal (neg : Bool) (digits : Nat) (power : Int) : Binary64 :=
  let width : Int := (Nat.toDigits 10 digits).length
  if digits = 0 || width + power < -400 then zero neg
  else if 400 < width + power then infinity neg
  else ofRatio neg (digits * tenTo power.toNat) (tenTo (-power).toNat)

/-! ## Arithmetic -/

/-- The number with the other sign. -/
def neg (x : Binary64) : Binary64 := ofMagnitude (!x.negative) x.magnitude

/-- The product. A value that is not a number is passed on, the left one first. -/
def mul (x y : Binary64) : Binary64 :=
  let sign := x.negative != y.negative
  if x.isNaN then x
  else if y.isNaN then y
  else if x.isInfinite || y.isInfinite then
    if x.isZero || y.isZero then notANumber true else infinity sign
  else
    let (num, den) := overPower (x.significand * y.significand) 1 (-(x.exponent + y.exponent))
    ofRatio sign num den

/-- The quotient. A value that is not a number is passed on, the left one first. -/
def div (x y : Binary64) : Binary64 :=
  let sign := x.negative != y.negative
  if x.isNaN then x
  else if y.isNaN then y
  else if x.isInfinite then if y.isInfinite then notANumber true else infinity sign
  else if y.isInfinite then zero sign
  else if y.isZero then if x.isZero then notANumber true else infinity sign
  else
    let (num, den) := overPower x.significand y.significand (-(x.exponent - y.exponent))
    ofRatio sign num den

/-- The whole number next to a number towards zero, cut off at the ends of the 64-bit integers. -/
def truncate (x : Binary64) : Int :=
  if x.isNaN then 0
  else
    let (num, den) := overPower x.significand 1 (-x.exponent)
    let n : Nat := if x.isInfinite then 2 * signBit else num / den
    max (-(signBit : Int)) (min (signBit - 1) (if x.negative then -(n : Int) else n))

/-! ## Order -/

/-- The place of a number in the sort order, in which `-0` stands below `0` and values that are not
numbers stand at the two ends. -/
def rank (x : Binary64) : Int := if x.negative then -(x.magnitude : Int) - 1 else x.magnitude

/-- The place of a number among its equals: both zeros have one. -/
def level (x : Binary64) : Int := if x.negative then -(x.magnitude : Int) else x.magnitude

/-- Whether two numbers are numbers and the first is less. -/
def less (x y : Binary64) : Bool := !x.isNaN && !y.isNaN && x.level < y.level

/-- Whether two numbers are numbers and equal. -/
def same (x y : Binary64) : Bool := !x.isNaN && !y.isNaN && x.level == y.level

/-- Numbers of one place in the sort order have the same bits. -/
theorem rank_inj {x y : Binary64} (h : x.rank = y.rank) : x = y := by
  have hx := x.bits.toNat_lt
  have hy := y.bits.toNat_lt
  have : x.bits.toNat = y.bits.toNat := by
    simp only [rank, negative, magnitude, decide_eq_true_eq] at h
    split at h <;> split at h <;> simp only [signBit] at * <;> omega
  cases x; cases y
  exact congrArg Binary64.mk (UInt64.toNat_inj.1 this)

end Binary64

end GameLog
