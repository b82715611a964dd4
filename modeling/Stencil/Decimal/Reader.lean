/-
Reading decimal numbers.

`readDecimal` splits the text of a number into sign, digits and exponent, and
`Double.read?` gives the nearest double.
-/
import Stencil.Decimal.Binary

namespace Stencil

/-- Whether a character is one of the ten ASCII digits. -/
def isDigit (c : Char) : Bool := '0' ≤ c && c ≤ '9'

/-- The number that a run of digits stands for, on top of `n`. -/
def foldDigits (digits : List Char) (n : Nat) : Nat :=
  digits.foldl (fun n c => 10 * n + (c.toNat - '0'.toNat)) n

/-- The number that a run of digits stands for. -/
def natOfDigits (digits : List Char) : Nat := foldDigits digits 0

namespace Double

/-- The exponent of a number's text: `e`, a sign if any, and digits. -/
def readExponent? : List Char → Option Int
  | [] => some 0
  | e :: rest =>
    if e = 'e' ∨ e = 'E' then
      let (negative, digits) : Bool × List Char :=
        match rest with
        | '-' :: digits => (true, digits)
        | '+' :: digits => (false, digits)
        | digits => (false, digits)
      if digits.isEmpty || !digits.all isDigit then none
      else some (if negative then -(natOfDigits digits : Int) else natOfDigits digits)
    else none

/-- The nearest double to `whole.fraction * 10 ^ exponent`, where an exponent
far outside the range of doubles is settled without computing the power. -/
def ofParts (negative : Bool) (whole fraction : List Char) (exponent : Int) : Float :=
  let digits := natOfDigits (whole ++ fraction)
  let scale := exponent - fraction.length
  let top := scale + (whole ++ fraction).length
  if digits = 0 ∨ top < -400 then nearest negative 0 1
  else if 400 < scale then nearest negative (Nat.pow 10 400) 1
  else ofDecimal negative digits scale

/-- Read a decimal number, `inf` or `NaN`, each with a sign if any. -/
def read? (text : String) : Option Float :=
  let (negative, body) : Bool × List Char :=
    match text.toList with
    | '-' :: rest => (true, rest)
    | '+' :: rest => (false, rest)
    | rest => (false, rest)
  if body = "inf".toList then some (nearest negative (Nat.pow 10 400) 1)
  else if body = "NaN".toList then some (0.0 / 0.0)
  else
    let whole := body.takeWhile isDigit
    let rest := body.dropWhile isDigit
    let (fraction, tail) : List Char × List Char :=
      match rest with
      | '.' :: more => (more.takeWhile isDigit, more.dropWhile isDigit)
      | more => ([], more)
    if whole.isEmpty && fraction.isEmpty then none
    else (readExponent? tail).map (ofParts negative whole fraction)

end Double

end Stencil
