/-
How doubles are written.

A `Layout` says where positional notation ends and whether a whole number keeps
its point.  There are two of them: `Layout.plain` is what templates print, and
`Layout.exact` is what dumps of a syntax tree print.
-/
import Stencil.Decimal.Shortest

namespace Stencil.Double

/-- The choices a written form of doubles makes. -/
structure Layout where
  /-- Whether a whole number ends in a point and a zero. -/
  keepsPoint : Bool
  /-- The decimal exponents written positionally, as `low ≤ k ≤ high` for a
  value in `[10 ^ (k - 1), 10 ^ k)`; all of them if `none`. -/
  positional : Option (Int × Int)

/-- Positional always, whole numbers without a point. -/
def Layout.plain : Layout := ⟨false, none⟩

/-- Positional from `10 ^ -4` up to below `10 ^ 16`, whole numbers with a point. -/
def Layout.exact : Layout := ⟨true, some (-3, 16)⟩

/-- The text of a list of decimal digits. -/
def digitText (digits : List Nat) : String :=
  String.join (digits.map toString)

/-- So many zeros. -/
def zeros (n : Nat) : String := String.ofList (List.replicate n '0')

/-- Positional notation. -/
def Decimal.positional (d : Decimal) (keepsPoint : Bool) : String :=
  let count := d.digits.length
  if d.exponent ≤ 0 then
    "0." ++ zeros (-d.exponent).toNat ++ digitText d.digits
  else if (count : Int) ≤ d.exponent then
    digitText d.digits ++ zeros (d.exponent.toNat - count) ++ (if keepsPoint then ".0" else "")
  else
    digitText (d.digits.take d.exponent.toNat) ++ "." ++ digitText (d.digits.drop d.exponent.toNat)

/-- One digit before the point and an exponent without sign or padding. -/
def Decimal.scientific (d : Decimal) : String :=
  let rest := d.digits.drop 1
  let point := if rest.isEmpty then "" else "."
  digitText (d.digits.take 1) ++ point ++ digitText rest ++ "e" ++ toString (d.exponent - 1)

/-- The text of the magnitude of a double. -/
def Layout.magnitude (layout : Layout) : Magnitude → String
  | .infinite => "inf"
  | .notANumber => "NaN"
  | .finite s =>
    if s.significand = 0 then (if layout.keepsPoint then "0.0" else "0")
    else
      let d := shortest s
      match layout.positional with
      | none => d.positional layout.keepsPoint
      | some (low, high) =>
        if low ≤ d.exponent ∧ d.exponent ≤ high then d.positional layout.keepsPoint
        else d.scientific

/-- The text of a double.  Zero has a sign, that which is no number has none. -/
def Layout.write (layout : Layout) (x : Float) : String :=
  let m := Double.magnitude x
  let sign := if Double.isNegative x && m != .notANumber then "-" else ""
  sign ++ layout.magnitude m

end Stencil.Double
