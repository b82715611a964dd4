/-
Colours of an marked excerpt.

`paint` puts text between the escape sequences of a terminal that turn a colour
on and off.
-/

namespace Stencil

/-- What a piece of an excerpt is, which decides its colour. -/
inductive Ink where
  /-- The place that is marked, and what leads to the note. -/
  | label
  /-- The frame, with the numbers of lines. -/
  | frame
  /-- The margin of rows that are no lines of the text. -/
  | margin
  /-- Text that is not marked. -/
  | plain
deriving DecidableEq

/-- The number of the colour. -/
def Ink.code : Ink → String
  | label => "31"
  | frame => "38;5;246"
  | margin => "38;5;240"
  | plain => "38;5;249"

/-- The text in a colour. -/
def paint (ink : Ink) (text : String) : String :=
  "\x1b[" ++ ink.code ++ "m" ++ text ++ "\x1b[0m"

end Stencil
