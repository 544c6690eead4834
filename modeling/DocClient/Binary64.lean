/-!
Binary64 numbers kept as their 64 bits, so equality is decidable. A finite number is the
rational `significand * 2 ^ exponent`; reading a rational rounds to nearest, ties to even.
-/
namespace DocClient

/-- An IEEE 754 double held by its bit pattern. -/
structure Binary64 where
  bits : UInt64
  deriving DecidableEq, Inhabited

namespace Binary64

/-- The stored exponent field, from 0 to 2047. -/
def exponentField (x : Binary64) : Nat := x.bits.toNat / Nat.pow 2 52 % 2048

/-- The stored fraction field, the low 52 bits. -/
def fractionField (x : Binary64) : Nat := x.bits.toNat % Nat.pow 2 52

/-- The sign bit. -/
def negative (x : Binary64) : Bool := decide (Nat.pow 2 63 ≤ x.bits.toNat)

/-- Not a number: all exponent bits set and a fraction. -/
def isNaN (x : Binary64) : Bool := x.exponentField == 2047 && x.fractionField != 0

/-- An infinity of either sign. -/
def isInfinite (x : Binary64) : Bool := x.exponentField == 2047 && x.fractionField == 0

/-- Neither an infinity nor a NaN. -/
def isFinite (x : Binary64) : Bool := x.exponentField != 2047

/-- The integer significand of a finite number: the fraction with its hidden bit. -/
def significand (x : Binary64) : Nat :=
  if x.exponentField = 0 then x.fractionField else x.fractionField + Nat.pow 2 52

/-- The power of two that scales the significand of a finite number. -/
def exponent (x : Binary64) : Int :=
  if x.exponentField = 0 then -1074 else (x.exponentField : Int) - 1075

/-- Assemble a number from its sign, exponent field and fraction field. -/
def pack (neg : Bool) (e f : Nat) : Binary64 :=
  ⟨UInt64.ofNat ((if neg then Nat.pow 2 63 else 0) + e * Nat.pow 2 52 + f)⟩

/-- The quiet NaN that reading "nan" gives. -/
def nan : Binary64 := ⟨0x7FF8000000000000⟩

/-- The infinity of the given sign. -/
def infinity (neg : Bool) : Binary64 := pack neg 2047 0

/-- The zero of the given sign. -/
def zero (neg : Bool) : Binary64 := pack neg 0 0

/-- The same number with the other sign. -/
def negate (x : Binary64) : Binary64 :=
  ⟨UInt64.ofNat ((x.bits.toNat + Nat.pow 2 63) % Nat.pow 2 64)⟩

/-- A zero of either sign. -/
def isZero (x : Binary64) : Bool := x.exponentField == 0 && x.fractionField == 0

/-- The nearest integer to `n / d`, a tie going to the even one. -/
def roundHalfEven (n d : Nat) : Nat :=
  let q := n / d
  let r := n % d
  if 2 * r < d then q
  else if d < 2 * r then q + 1
  else if q % 2 = 0 then q else q + 1

/-- `num / den` scaled by `2 ^ -k`, as a pair of naturals. -/
def scaledBy (num den : Nat) (k : Int) : Nat × Nat :=
  if 0 ≤ k then (num, den * Nat.pow 2 k.toNat) else (num * Nat.pow 2 (-k).toNat, den)

/-- The number nearest to `num / den` with the given sign, ties to an even significand. -/
def ofQuotient (neg : Bool) (num den : Nat) : Binary64 :=
  if num = 0 ∨ den = 0 then zero neg else
  let k₀ : Int := (Nat.log2 num : Int) - Nat.log2 den - 53
  let s₀ := scaledBy num den k₀
  let k₁ := if Nat.pow 2 53 ≤ s₀.1 / s₀.2 then k₀ + 1 else k₀
  let k := max k₁ (-1074)
  let s := scaledBy num den k
  let m₀ := roundHalfEven s.1 s.2
  let m := if m₀ = Nat.pow 2 53 then Nat.pow 2 52 else m₀
  let e := if m₀ = Nat.pow 2 53 then k + 1 else k
  if 971 < e then infinity neg
  else if m < Nat.pow 2 52 then pack neg 0 m
  else pack neg (e + 1075).toNat (m - Nat.pow 2 52)

/-- The number of decimal digits of a positive natural. -/
def digitCount (n : Nat) : Nat := (Nat.toDigits 10 n).length

/-- The number nearest to `m * 10 ^ e`, far exponents settled without their powers. -/
def ofScientific (neg : Bool) (m : Nat) (e : Int) : Binary64 :=
  if m = 0 then zero neg
  else if 310 < (digitCount m : Int) + e then infinity neg
  else if (digitCount m : Int) + e < -330 then zero neg
  else if 0 ≤ e then ofQuotient neg (m * Nat.pow 10 e.toNat) 1
  else ofQuotient neg m (Nat.pow 10 (-e).toNat)

/-- The number nearest to an integer. -/
def ofInt (i : Int) : Binary64 := ofQuotient (i < 0) i.natAbs 1

/-- A finite number as the exact fraction `num / den`, sign apart. -/
def toFraction (x : Binary64) : Nat × Nat :=
  if 0 ≤ x.exponent then (x.significand * Nat.pow 2 x.exponent.toNat, 1)
  else (x.significand, Nat.pow 2 (-x.exponent).toNat)

/-- The integer part of a finite number, rounded toward zero. -/
def truncate (x : Binary64) : Int :=
  let r := x.toFraction
  if x.negative then -((r.1 / r.2 : Nat) : Int) else ((r.1 / r.2 : Nat) : Int)

/-- A finite number with no fractional part. -/
def isIntegral (x : Binary64) : Bool := x.isFinite && x.toFraction.1 % x.toFraction.2 == 0

/-- Numeric order of an integer against a finite number, exactly. -/
def compareInt (i : Int) (x : Binary64) : Ordering :=
  let r := x.toFraction
  let lhs : Int := i * r.2
  let rhs : Int := if x.negative then -(r.1 : Int) else r.1
  compare lhs rhs

/-- Numeric equality of two numbers: NaN equals nothing and the two zeros are equal. -/
def numEq (x y : Binary64) : Bool :=
  if x.isNaN || y.isNaN then false
  else if x.isZero && y.isZero then true
  else x.bits == y.bits

end Binary64

end DocClient
