/-
The fewest decimal digits that read back as a given double.

`Double.shortest` looks, for 1, 2, … 17 digits, at the two neighbours of the
value on that decimal grid and takes the first grid on which a neighbour lies
in the interval of the reals that round to the double.  Of two neighbours in
the interval the nearer is taken, and of two equally near ones the larger.

## Design notes

The ends of the interval lie half a step away from the double, and belong to
it if the significand is even.  Below a power of two the steps are half as
large.  All comparisons are between natural numbers over one denominator.
-/
import Stencil.Decimal.Binary

namespace Stencil.Double

/-- `0.d₁d₂… * 10 ^ exponent`, the digits being those of `digits`. -/
structure Decimal where
  digits : List Nat
  exponent : Int
deriving DecidableEq

/-- A double and the ends of its rounding interval over one denominator. -/
structure Interval where
  value : Nat
  low : Nat
  high : Nat
  denominator : Nat
  closed : Bool

/-- The rounding interval of `significand * 2 ^ exponent`. -/
def Scaled.interval (s : Scaled) : Interval :=
  let power := s.significand = Nat.pow 2 52 ∧ leastExponent < s.exponent
  let value := 4 * s.significand
  let low := if power then value - 1 else value - 2
  let high := value + 2
  let closed := s.significand % 2 == 0
  if 0 ≤ s.exponent then
    let unit := Nat.pow 2 s.exponent.toNat
    { value := value * unit, low := low * unit, high := high * unit, denominator := 4, closed }
  else
    { value, low, high, denominator := 4 * Nat.pow 2 (-s.exponent).toNat, closed }

/-- Whether `n / d` lies in the interval. -/
def Interval.holds (i : Interval) (n d : Nat) : Bool :=
  let here := n * i.denominator
  if i.closed then i.low * d ≤ here && here ≤ i.high * d
  else i.low * d < here && here < i.high * d

/-- The least `k` with `num / den < 10 ^ k`, counted up from a start. -/
def digitsBeforePoint (num den : Nat) : Nat → Int → Int
  | 0, k => k
  | fuel + 1, k =>
    let (n, d) :=
      if 0 ≤ k then (num, den * Nat.pow 10 k.toNat) else (num * Nat.pow 10 (-k).toNat, den)
    if n < d then k else digitsBeforePoint num den fuel (k + 1)

/-- The decimal exponent of a positive double: the least `k` with its value
below `10 ^ k`.  The start of the search is never above it, and at most two
steps below. -/
def Interval.exponent (i : Interval) : Int :=
  let bits : Int := (i.value.log2 : Int) - i.denominator.log2
  digitsBeforePoint i.value i.denominator 4 ((bits - 1) * 30103 / 100000)

/-- The neighbour of the value with `count` digits that lies in the interval. -/
def Interval.neighbour (i : Interval) (exponent : Int) (count : Nat) : Option Nat :=
  let scale := exponent - count
  let up := if 0 ≤ scale then Nat.pow 10 scale.toNat else 1
  let down := if 0 ≤ scale then 1 else Nat.pow 10 (-scale).toNat
  let num := i.value * down
  let den := i.denominator * up
  let below := num / den
  let rest := num % den
  let low := i.holds (below * up) down && below != 0
  let high := i.holds ((below + 1) * up) down
  if low && high then some (if 2 * rest < den then below else below + 1)
  else if low then some below
  else if high then some (below + 1)
  else none

/-- Search the grids of `count`, `count + 1`, … digits. -/
def Interval.search (i : Interval) (exponent : Int) : Nat → Nat → Nat × Nat
  | 0, count => (i.value * Nat.pow 10 count / i.denominator, count)
  | fuel + 1, count =>
    match i.neighbour exponent count with
    | some digits => (digits, count)
    | none => i.search exponent fuel (count + 1)

/-- The decimal digits of a number, the most significant first. -/
def digitsOf (n : Nat) : List Nat :=
  (Nat.toDigits 10 n).map fun c => c.toNat - '0'.toNat

/-- Digits without the zeros at their end. -/
def dropTrailingZeros (digits : List Nat) : List Nat :=
  (digits.reverse.dropWhile (· == 0)).reverse

/-- The shortest decimal of a positive double. -/
def shortest (s : Scaled) : Decimal :=
  let i := s.interval
  let exponent := i.exponent
  let (digits, count) := i.search exponent 17 1
  let all := digitsOf digits
  { digits := dropTrailingZeros all
    exponent := exponent + ((all.length : Int) - count) }

end Stencil.Double
