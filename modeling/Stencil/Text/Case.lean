/-
Upper and lower case.

`upperChar` and `lowerChar` map one character, `upper` and `lower` a text.  They
differ in one place: a capital sigma that ends a word becomes the final form of
the small letter, which takes the text around it to see.
-/
import Stencil.Text.CaseTable
import Stencil.Text.Letters

namespace Stencil

/-- Whether a run holds a code point. -/
def CaseRun.holds (run : CaseRun) (n : Nat) : Bool :=
  run.first ≤ n && n ≤ run.last && (n - run.first) % run.step == 0

/-- The characters that a code point is mapped to. -/
def mapCase (runs : List CaseRun) (sequences : List (Nat × List Nat)) (c : Char) : List Char :=
  match sequences.lookup c.toNat with
  | some codes => codes.map Char.ofNat
  | none =>
    match runs.find? fun run => run.holds c.toNat with
    | some run => [Char.ofNat (c.toNat + run.shift).toNat]
    | none => [c]

/-- The upper case of a character. -/
def upperChar (c : Char) : List Char :=
  if c.toNat < 0x80 then [c.toUpper] else mapCase upperRuns upperSequences c

/-- The lower case of a character. -/
def lowerChar (c : Char) : List Char :=
  if c.toNat < 0x80 then [c.toLower] else mapCase lowerRuns lowerSequences c

/-- The upper case of a text. -/
def upper (text : String) : String := String.ofList (text.toList.flatMap upperChar)

/-- Whether the first character that is not passed over has a case. -/
def nextIsCased (text : List Char) : Bool :=
  match text.dropWhile caseIgnorableChars.contains with
  | c :: _ => casedChars.contains c
  | [] => false

/-- The lower case of a text; `before` holds the characters in front of it, the
last one first. -/
def lowerFrom (before : List Char) : List Char → List Char
  | [] => []
  | c :: rest =>
    let mapped :=
      if c = 'Σ' then [if nextIsCased before && !nextIsCased rest then 'ς' else 'σ']
      else lowerChar c
    mapped ++ lowerFrom (c :: before) rest

/-- The lower case of a text. -/
def lower (text : String) : String := String.ofList (lowerFrom [] text.toList)

/-- A text with the first character of each word in upper case and the others in
lower case.  A word is a run of letters and numbers. -/
def capitalizeFrom (atStart : Bool) : List Char → List Char
  | [] => []
  | c :: rest =>
    if isLetterOrNumber c then
      (if atStart then upperChar c else lowerChar c) ++ capitalizeFrom false rest
    else c :: capitalizeFrom true rest

/-- A text with its words capitalized. -/
def capitalize (text : String) : String := String.ofList (capitalizeFrom true text.toList)

end Stencil
