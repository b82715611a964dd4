/-
Doubles as exact numbers.

A finite double is a natural number times a power of two.  `Double.magnitude`
reads that pair off the bits, and `Double.nearest` goes back: it rounds any
ratio of natural numbers to the nearest double, a tie to the even mantissa,
an excess to infinity.  All arithmetic between the two is on natural numbers.

## Design notes

The significand has 53 bits and the smallest exponent is -1074.  A subnormal
has that exponent and a shorter significand, so one formula serves both: the
bits of `m * 2 ^ e` are `m` plus `2 ^ 52` for each step of `e` above the
smallest exponent.
-/

namespace Stencil.Double

/-- `significand * 2 ^ exponent`. -/
structure Scaled where
  significand : Nat
  exponent : Int
deriving DecidableEq

/-- What the magnitude of a double can be. -/
inductive Magnitude where
  | finite (value : Scaled)
  | infinite
  | notANumber
deriving DecidableEq

/-- The exponent of the smallest positive double. -/
def leastExponent : Int := -1074

/-- Whether the sign bit is set. -/
def isNegative (x : Float) : Bool :=
  x.toBits.toNat / Nat.pow 2 63 == 1

/-- The magnitude of a double. -/
def magnitude (x : Float) : Magnitude :=
  let bits := x.toBits.toNat
  let field := bits / Nat.pow 2 52 % Nat.pow 2 11
  let fraction := bits % Nat.pow 2 52
  if field = 2047 then
    if fraction = 0 then .infinite else .notANumber
  else if field = 0 then .finite ⟨fraction, leastExponent⟩
  else .finite ⟨Nat.pow 2 52 + fraction, leastExponent + (field - 1 : Nat)⟩

/-- Numerator and denominator of `num / den / 2 ^ exponent`. -/
def rescale (num den : Nat) (exponent : Int) : Nat × Nat :=
  if 0 ≤ exponent then (num, den * Nat.pow 2 exponent.toNat)
  else (num * Nat.pow 2 (-exponent).toNat, den)

/-- The quotient rounded to the nearest natural number, a tie to the even one. -/
def roundTiesToEven (num den : Nat) : Nat :=
  let q := num / den
  let r := num % den
  if 2 * r < den then q
  else if den < 2 * r then q + 1
  else q + q % 2

/-- The exponent at which `num / den` has a significand of 53 bits, or the
least exponent if that is larger. -/
def exponentFor (num den : Nat) : Int :=
  let guess : Int := (num.log2 : Int) - den.log2 - 52
  let (n, d) := rescale num den guess
  max (if n / d < Nat.pow 2 52 then guess - 1 else guess) leastExponent

/-- The bits of the double nearest to `num / den`, for a positive `den`. -/
def nearestBits (num den : Nat) : Nat :=
  if num = 0 then 0
  else
    let exponent := exponentFor num den
    let (n, d) := rescale num den exponent
    let significand := roundTiesToEven n d
    min (significand + (exponent - leastExponent).toNat * Nat.pow 2 52) (2047 * Nat.pow 2 52)

/-- The double with the given sign that is nearest to `num / den`. -/
def nearest (negative : Bool) (num den : Nat) : Float :=
  let bits := nearestBits num den
  Float.ofBits (UInt64.ofNat (if negative then bits + Nat.pow 2 63 else bits))

/-- The double nearest to an integer of 64 bits. -/
def ofInt64 (n : Int64) : Float := nearest (n.toInt < 0) n.toInt.natAbs 1

/-- The double nearest to `digits * 10 ^ exponent`. -/
def ofDecimal (negative : Bool) (digits : Nat) (exponent : Int) : Float :=
  if 0 ≤ exponent then nearest negative (digits * Nat.pow 10 exponent.toNat) 1
  else nearest negative digits (Nat.pow 10 (-exponent).toNat)

/-- The remainder of the division of two magnitudes, exact on both. -/
def remainderScaled (a b : Scaled) : Scaled :=
  let exponent := min a.exponent b.exponent
  let m := a.significand * Nat.pow 2 (a.exponent - exponent).toNat
  let n := b.significand * Nat.pow 2 (b.exponent - exponent).toNat
  ⟨m % n, exponent⟩

/-- The double that a magnitude and a sign stand for. -/
def ofScaled (negative : Bool) (value : Scaled) : Float :=
  if 0 ≤ value.exponent then nearest negative (value.significand * Nat.pow 2 value.exponent.toNat) 1
  else nearest negative value.significand (Nat.pow 2 (-value.exponent).toNat)

/-- The remainder of a division that truncates towards zero.  It has the sign
of the dividend, a zero divisor or an infinite dividend has none, and an
infinite divisor leaves the dividend as it is. -/
def remainder (x y : Float) : Float :=
  match magnitude x, magnitude y with
  | .finite a, .finite b =>
    if b.significand = 0 then 0.0 / 0.0
    else ofScaled (isNegative x) (remainderScaled a b)
  | .finite _, .infinite => x
  | _, _ => 0.0 / 0.0

end Stencil.Double
