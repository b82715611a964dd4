/-
JSON documents.

`Json.parse?` reads a text that holds one JSON value and nothing else but
blanks.  It is strict: no comments, no trailing commas, no leading zeros or plus
signs, no unpaired surrogate escapes, and no number beyond the range of doubles.

## Design notes

A number without fraction and exponent that fits 64 signed bits is an integer;
any other number is a double, and so is a zero with a minus sign.  The text of
a number is read into a significand of at most 64 bits and a power of ten
(`Number.significand`), and the double is what multiplying or dividing these two
as doubles gives, so it can differ from the nearest double in the last place.

Nesting is limited, so that a document cannot make its readers run out of stack.
-/
import Stencil.Decimal.Reader
import Stencil.Keyed
import Stencil.Token.Lexer

namespace Stencil

/-- A JSON value.  Objects have their keys in ascending order. -/
inductive Json where
  | null
  | bool (value : Bool)
  | int (value : Int64)
  | double (value : Float)
  | string (value : String)
  | array (items : List Json)
  | object (entries : List (String × Json))

namespace Json

/-- How many arrays and objects may contain each other. -/
def nestingLimit : Nat := 127

/-- The parts of the text of a number. -/
structure Number where
  negative : Bool
  whole : List Char
  /-- The digits behind the point, if there is one. -/
  fraction : Option (List Char)
  exponent : Option Int

namespace Number

/-- The largest significand. -/
def limit : Nat := Nat.pow 2 64

/-- Take digits into a significand while it stays below the limit.  Answers the
significand and the number of digits that were left out. -/
def take (significand : Nat) : List Char → Nat × Nat
  | [] => (significand, 0)
  | c :: digits =>
    let next := 10 * significand + (c.toNat - '0'.toNat)
    if next < limit then take next digits else (significand, digits.length + 1)

/-- The significand of a number's digits and the power of ten that goes with
it.  Digits beyond the limit are left out; whole ones still count as zeros, and
once a whole digit is left out, the fraction goes on where the limit allows. -/
def significand (number : Number) : Nat × Int :=
  let (whole, dropped) := take 0 number.whole
  let fraction := number.fraction.getD []
  let (all, left) := take whole fraction
  (all, (dropped : Int) - ((fraction.length : Int) - left))

/-- The largest power of ten that is multiplied or divided by in one step. -/
def largestPower : Nat := 308

/-- `x / 10 ^ n` in steps. -/
def divide (x : Float) (n : Nat) : Float :=
  if _h : largestPower < n then
    if x == 0.0 then x else divide (x / Double.ofDecimal false 1 largestPower) (n - largestPower)
  else x / Double.ofDecimal false 1 n
termination_by n
decreasing_by simp only [largestPower] at *; omega

/-- `significand * 10 ^ exponent` as a double, unless it is out of range. -/
def scale (significand : Nat) (exponent : Int) : Option Float :=
  let x := Double.nearest false significand 1
  if exponent < 0 then some (divide x (-exponent).toNat)
  else if exponent ≤ largestPower then
    let y := x * Double.ofDecimal false 1 exponent
    if y.isInf then none else some y
  else if significand = 0 then some x
  else none

/-- The double that a number stands for, unless it is out of range.  An exponent
of more than 31 bits is settled without being applied. -/
def toDouble? (number : Number) : Option Float :=
  let (digits, power) := number.significand
  let exponent := number.exponent.getD 0
  let magnitude :=
    if exponent.natAbs < Nat.pow 2 31 then scale digits (power + exponent)
    else if digits = 0 ∨ exponent < 0 then some 0.0
    else none
  magnitude.map fun x => if number.negative then -x else x

/-- The value of a number, unless it is out of range. -/
def value? (number : Number) : Option Json :=
  let n := natOfDigits number.whole
  let signed : Int := if number.negative then -(n : Int) else n
  if number.fraction.isNone && number.exponent.isNone &&
      (if number.negative then n != 0 && n ≤ Nat.pow 2 63 else n < Nat.pow 2 63) then
    some (.int (Int64.ofInt signed))
  else number.toDouble?.map .double

end Number

/-- The digits at the front of a text. -/
def digits (text : List Char) : List Char × List Char :=
  (text.takeWhile isDigit, text.dropWhile isDigit)

/-- The fraction at the front of a text, which needs a digit. -/
def fraction? : List Char → Option (Option (List Char) × List Char)
  | '.' :: rest =>
    match digits rest with
    | ([], _) => none
    | (ds, rest) => some (some ds, rest)
  | rest => some (none, rest)

/-- The exponent at the front of a text, which needs a digit. -/
def exponent? (text : List Char) : Option (Option Int × List Char) :=
  match text with
  | [] => some (none, [])
  | e :: rest =>
    if e = 'e' ∨ e = 'E' then
      let (negative, rest) : Bool × List Char :=
        match rest with
        | '-' :: rest => (true, rest)
        | '+' :: rest => (false, rest)
        | rest => (false, rest)
      match digits rest with
      | ([], _) => none
      | (ds, rest) =>
        let n := natOfDigits ds
        some (some (if negative then -(n : Int) else n), rest)
    else some (none, e :: rest)

/-- The number at the front of a text. -/
def number? (text : List Char) : Option (Json × List Char) := do
  let (negative, text) : Bool × List Char :=
    match text with
    | '-' :: rest => (true, rest)
    | rest => (false, rest)
  let (whole, rest) := digits text
  guard (!whole.isEmpty && (whole.head? != some '0' || whole.length == 1))
  let (fraction, rest) ← fraction? rest
  let (exponent, rest) ← exponent? rest
  let value ← Number.value? ⟨negative, whole, fraction, exponent⟩
  some (value, rest)

/-- The value of a hexadecimal digit. -/
def hexDigit? (c : Char) : Option Nat :=
  if '0' ≤ c && c ≤ '9' then some (c.toNat - '0'.toNat)
  else if 'a' ≤ c && c ≤ 'f' then some (c.toNat - 'a'.toNat + 10)
  else if 'A' ≤ c && c ≤ 'F' then some (c.toNat - 'A'.toNat + 10)
  else none

/-- The value of a run of hexadecimal digits, on top of `n`. -/
def hexNumber? (n : Nat) : List Char → Option Nat
  | [] => some n
  | c :: rest =>
    match hexDigit? c with
    | some d => hexNumber? (16 * n + d) rest
    | none => none

/-- The character that a single-letter escape stands for. -/
def escaped? : Char → Option Char
  | '"' => some '"'
  | '\\' => some '\\'
  | '/' => some '/'
  | 'b' => some '\x08'
  | 'f' => some '\x0c'
  | 'n' => some '\n'
  | 'r' => some '\r'
  | 't' => some '\t'
  | _ => none

/-- The character that two halves of a surrogate pair stand for. -/
def joinSurrogates? (high low : Nat) : Option Char :=
  if 0xDC00 ≤ low ∧ low ≤ 0xDFFF then
    some (Char.ofNat (0x10000 + (high - 0xD800) * 0x400 + (low - 0xDC00)))
  else none

/-- The text up to a closing quote, and what is left behind the quote.  The
characters of `done`, in reverse, have been read. -/
def string? (text : List Char) (done : List Char) : Option (String × List Char) :=
  match text with
  | '"' :: rest => some (String.ofList done.reverse, rest)
  | '\\' :: 'u' :: a :: b :: c :: d :: rest =>
    match hexNumber? 0 [a, b, c, d] with
    | none => none
    | some n =>
      if 0xD800 ≤ n ∧ n ≤ 0xDBFF then
        match rest with
        | '\\' :: 'u' :: a :: b :: c :: d :: rest =>
          match (hexNumber? 0 [a, b, c, d]).bind (joinSurrogates? n) with
          | some c => string? rest (c :: done)
          | none => none
        | _ => none
      else if 0xDC00 ≤ n ∧ n ≤ 0xDFFF then none
      else string? rest (Char.ofNat n :: done)
  | '\\' :: c :: rest =>
    match escaped? c with
    | some c => string? rest (c :: done)
    | none => none
  | c :: rest => if c.toNat < 0x20 ∨ c = '\\' then none else string? rest (c :: done)
  | [] => none

/-- Drop the blanks at the front of a text. -/
def skip (text : List Char) : List Char := text.dropWhile isBlank

/-- Drop a word at the front of a text. -/
def word? (word : String) (value : Json) (text : List Char) : Option (Json × List Char) :=
  if word.toList.isPrefixOf text then some (value, text.drop word.length) else none

/-- What is being read: a value, further items of an array, or further entries
of an object, each with what has been read of the collection in reverse. -/
inductive Task where
  | value
  | items (done : List Json)
  | entries (done : List (String × Json))

/-- Read a value or the rest of a collection at the front of a text.  The first
number bounds the steps, the second the nesting. -/
def read? : Nat → Nat → Task → List Char → Option (Json × List Char)
  | 0, _, _, _ => none
  | fuel + 1, depth, .value, text =>
    match skip text with
    | [] => none
    | c :: rest =>
      match c with
      | '"' => (string? rest []).map fun (s, rest) => (.string s, rest)
      | '[' =>
        match depth with
        | 0 => none
        | depth + 1 =>
          match skip rest with
          | ']' :: rest => some (.array [], rest)
          | rest => read? fuel depth (.items []) rest
      | '\x7b' =>
        match depth with
        | 0 => none
        | depth + 1 =>
          match skip rest with
          | '\x7d' :: rest => some (.object [], rest)
          | rest => read? fuel depth (.entries []) rest
      | 'n' => word? "null" .null (c :: rest)
      | 't' => word? "true" (.bool true) (c :: rest)
      | 'f' => word? "false" (.bool false) (c :: rest)
      | _ => number? (c :: rest)
  | fuel + 1, depth, .items done, text =>
    match read? fuel depth .value text with
    | none => none
    | some (item, rest) =>
      match skip rest with
      | ',' :: rest => read? fuel depth (.items (item :: done)) rest
      | ']' :: rest => some (.array (item :: done).reverse, rest)
      | _ => none
  | fuel + 1, depth, .entries done, text =>
    match skip text with
    | '"' :: rest =>
      match string? rest [] with
      | none => none
      | some (key, rest) =>
        match skip rest with
        | ':' :: rest =>
          match read? fuel depth .value rest with
          | none => none
          | some (value, rest) =>
            match skip rest with
            | ',' :: rest => read? fuel depth (.entries ((key, value) :: done)) rest
            | '\x7d' :: rest =>
              some (.object (Keyed.ofList ((key, value) :: done).reverse), rest)
            | _ => none
        | _ => none
    | _ => none

/-- The value of a JSON text. -/
def parse? (text : String) : Option Json :=
  let chars := text.toList
  match read? (2 * chars.length + 2) nestingLimit .value chars with
  | some (value, rest) => if (skip rest).isEmpty then some value else none
  | none => none

end Json

end Stencil
