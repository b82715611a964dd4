/-
Excerpts of a text with a marked piece.

An `Excerpt` marks a piece of a text and says something about it.
`Excerpt.draw` shows the lines around the piece and the note below.

## Design notes

Places are counted in characters, and the columns of a row in characters of the
line above it.  A character can take several columns of the terminal or none
(`cellWidth`), so a row below a line repeats a glyph as often as the character
above it is wide (`drawRow`).

A piece within one line is underlined, and an arrow leads from its middle to the
note.  A piece of several lines has a bracket on their left, of which only the
first and the last line are shown.
-/
import Stencil.Excerpt.Ink
import Stencil.Text.Lines
import Stencil.Text.Position
import Stencil.Text.Width

namespace Stencil

/-- A headline, and a note on the characters of a file from `start` up to
`stop`. -/
structure Excerpt where
  headline : String
  note : String
  file : String
  start : Nat
  stop : Nat

/-- A line of a text, with the number of characters and of lines in front. -/
structure NumberedLine where
  index : Nat
  start : Nat
  chars : List Char

namespace NumberedLine

/-- Number the lines of a text. -/
def number (index start : Nat) : List (List Char) → List NumberedLine
  | [] => []
  | chars :: lines => ⟨index, start, chars⟩ :: number (index + 1) (start + chars.length) lines

/-- The lines of a text. -/
def ofText (text : List Char) : List NumberedLine := number 0 0 (splitLines text)

/-- The line that a place is on: the last that starts at it or in front. -/
def locate (lines : List NumberedLine) (place : Nat) : Option NumberedLine :=
  (lines.filter fun line => line.start ≤ place).getLast?

/-- What is shown of a line. -/
def shown (line : NumberedLine) : List Char := dropWhiteEnd line.chars

end NumberedLine

/-- The number of characters of a text that start in front of a byte offset. -/
def charsBefore : List Char → Nat → Nat
  | [], _ => 0
  | c :: text, offset => if offset = 0 then 0 else 1 + charsBefore text (offset - c.utf8Size)

/-- The columns that a character takes in a column of its line: a tab reaches to
the next multiple of four. -/
def cellWidth (column : Nat) (c : Char) : Nat :=
  if c = '\t' then 4 - column % 4
  else if isWhite c then 1
  else columns c

/-- A glyph as often as given. -/
def times (n : Nat) (glyph : String) : String := String.join (List.replicate n glyph)

/-- The glyphs of a column of a row: the first, and the one that follows it
where the character above is wide. -/
structure Cell where
  first : String
  further : String

namespace Cell

/-- A column in which nothing is drawn. -/
def blank : Cell := ⟨" ", " "⟩

/-- A horizontal line. -/
def bar : Cell := ⟨paint .label "─", paint .label "─"⟩

/-- Draw a cell over so many columns. -/
def draw (cell : Cell) : Nat → String
  | 0 => ""
  | width + 1 => cell.first ++ times width cell.further

end Cell

/-- Draw so many columns of a row below the characters of a line. -/
def drawRow (cell : Nat → Cell) (above : List Char) (count : Nat) : String :=
  String.join ((List.range count).map fun column =>
    (cell column).draw <|
      match above[column]? with
      | some c => cellWidth column c
      | none => 1)

namespace Excerpt

/-- Whether a place belongs to the piece. -/
def covers (excerpt : Excerpt) (place : Nat) : Bool :=
  excerpt.start ≤ place && place < excerpt.stop

/-- The place of the last character of the piece. -/
def last (excerpt : Excerpt) : Nat := max excerpt.start (excerpt.stop - 1)

/-- What is shown of a line, each character in its colour. -/
def drawLine (excerpt : Excerpt) (line : NumberedLine) : String :=
  String.join (line.shown.mapIdx fun column c =>
    let ink := if excerpt.covers (line.start + column) then Ink.label else Ink.plain
    if isWhite c then times (cellWidth column c) (paint ink " ")
    else paint ink c.toString)

/-- The column of the arrow below a line: the middle of the piece. -/
def middle (excerpt : Excerpt) (line : NumberedLine) : Nat :=
  (excerpt.start + excerpt.stop) / 2 - line.start

/-- The row that underlines the piece, or points at a piece without
characters. -/
def underline (excerpt : Excerpt) (line : NumberedLine) (column : Nat) : Cell :=
  let covered := excerpt.covers (line.start + column)
  if column = excerpt.middle line then
    if covered then ⟨paint .label "┬", paint .label "─"⟩
    else ⟨paint .label "│", paint .label " "⟩
  else if covered then .bar
  else .blank

/-- The row that leads from the middle of the piece to the note. -/
def arrow (excerpt : Excerpt) (line : NumberedLine) (column : Nat) : Cell :=
  if column = excerpt.middle line then ⟨paint .label "╰", paint .label "─"⟩
  else if excerpt.middle line < column then .bar
  else .blank

/-- The margin of a line, with its number. -/
def lineMargin (width : Nat) (line : NumberedLine) : String :=
  let number := toString (line.index + 1)
  " " ++ paint .frame (times (width - number.length) " " ++ number ++ " │") ++ " "

/-- The margin of a row that is no line. -/
def rowMargin (width : Nat) (edge : String) : String :=
  " " ++ paint .margin (times (width + 1) " " ++ edge) ++ " "

/-- The corner of a bracket, which points at a line. -/
def pointer (corner : String) : String :=
  paint .label corner ++ paint .label "─" ++ paint .label "▶" ++ paint .label " "

/-- The rows of a piece on one line.  `width` is the number of digits of line
numbers. -/
def drawInline (excerpt : Excerpt) (width : Nat) (line : NumberedLine) : List String :=
  let count := excerpt.stop - line.start + 2
  [lineMargin width line ++ excerpt.drawLine line,
    rowMargin width "│" ++ drawRow (excerpt.underline line) line.shown count,
    rowMargin width "│" ++ drawRow (excerpt.arrow line) line.shown count ++ " " ++
      excerpt.note]

/-- The rows of a piece that reaches from one line to another. -/
def drawBracket (excerpt : Excerpt) (width : Nat) (first final : NumberedLine) :
    List String :=
  let count := final.chars.length + 2
  [lineMargin width first ++ pointer "╭" ++ excerpt.drawLine first] ++
    (if first.index + 1 < final.index
      then [rowMargin width "┆" ++ paint .label "┆" ++ times 3 " "] else []) ++
    [lineMargin width final ++ pointer "├" ++ excerpt.drawLine final,
      rowMargin width "│" ++ paint .label "│" ++ times 3 " " ++
        drawRow (fun _ => .blank) final.shown count,
      rowMargin width "│" ++ paint .label "╰" ++ times 3 (paint .label "─") ++
        drawRow (fun _ => .bar) final.shown count ++ " " ++ excerpt.note]

/-- The rows of the excerpt, unless the text has no line to show. -/
def rows (excerpt : Excerpt) (text : List Char) : List String :=
  let lines := NumberedLine.ofText text
  match NumberedLine.locate lines excerpt.start, NumberedLine.locate lines excerpt.last with
  | some first, some final =>
    let width := (toString (final.index + 1)).length
    let inset := times (width + 2) " "
    [inset ++ paint .frame "╭" ++ paint .frame "─" ++ paint .frame "[" ++
        s!"{excerpt.file}:{first.index + 1}:{excerpt.start - first.start + 1}" ++
        paint .frame "]",
      inset ++ paint .frame "│"] ++
      (if first.index = final.index then excerpt.drawInline width first
        else excerpt.drawBracket width first final) ++
      [paint .frame (times (width + 2) "─" ++ "╯")]
  | _, _ => []

/-- The excerpt over a text, each row with a line feed behind it. -/
def draw (excerpt : Excerpt) (text : String) : String :=
  let rows := (paint .label "Error:" ++ " " ++ excerpt.headline) ::
    excerpt.rows text.toList
  String.join (rows.map fun row => row ++ "\n")

/-- An excerpt of the piece of a text that a span tells. -/
def ofSpan (span : Span) (text headline note : String) : Excerpt :=
  let start := charsBefore text.toList span.start
  { headline, note, file := span.file, start
    stop := max start (charsBefore text.toList span.stop) }

end Excerpt

end Stencil
