/-
Places in a source text.

A source is a list of characters that is addressed by byte offset, because a
template arrives as bytes and a message cites bytes.  `Source.span` turns two
offsets into a `Span`, which also knows the line and the column of its start:

* **`byteLength_append`** — byte lengths add up over concatenation;
* **`walk_append`** — the offset of a text that stands in front leads to the
  place reached by reading that text;
* **`walk_line`** — the line grows by the number of line feeds read.

## Design notes

Line and column are computed by one walk from the start of the source
(`walk`), a left fold that stops at the offset.  The column counts characters
and the offset counts bytes, so the walk carries both.
-/

namespace Stencil

/-- A piece of a source: its name, the line and column of its start (both from
1, the column in characters), and the byte offsets of its start and stop. -/
structure Span where
  file : String
  line : Nat
  column : Nat
  start : Nat
  stop : Nat
deriving DecidableEq, Inhabited

/-- The form in which messages cite a place. -/
def Span.cite (span : Span) : String :=
  s!"{span.file}:{span.line}:{span.column}"

/-- The number of bytes that a text takes in UTF-8. -/
@[simp] def byteLength : List Char → Nat
  | [] => 0
  | c :: text => c.utf8Size + byteLength text

@[simp] theorem byteLength_append (a b : List Char) :
    byteLength (a ++ b) = byteLength a + byteLength b := by
  induction a with
  | nil => simp
  | cons c a ih => simp [ih, Nat.add_assoc]

/-- Line and column, both counted from 1. -/
structure Place where
  line : Nat
  column : Nat
deriving DecidableEq

/-- The place of the first character. -/
def Place.origin : Place := ⟨1, 1⟩

/-- The place behind a character: a line feed opens the next line. -/
def Place.past (place : Place) (c : Char) : Place :=
  if c = '\n' then ⟨place.line + 1, 1⟩ else ⟨place.line, place.column + 1⟩

/-- The place reached from `place` by reading the characters of `text` that end
at or before byte `offset`. -/
def walk : List Char → Nat → Place → Place
  | [], _, place => place
  | c :: text, offset, place =>
    if offset < c.utf8Size then place
    else walk text (offset - c.utf8Size) (place.past c)

theorem walk_zero (text : List Char) (place : Place) : walk text 0 place = place := by
  cases text with
  | nil => rfl
  | cons c text => simp [walk, Char.utf8Size_pos]

/-- An offset that is the length of a text in front leads past that text. -/
theorem walk_append (before rest : List Char) (place : Place) :
    walk (before ++ rest) (byteLength before) place = before.foldl Place.past place := by
  induction before generalizing place with
  | nil => simp [walk_zero]
  | cons c before ih =>
    have h : ¬ c.utf8Size + byteLength before < c.utf8Size := by omega
    simp [walk, h, ih]

/-- Reading a text moves the line by the line feeds in it. -/
theorem walk_line (before : List Char) (place : Place) :
    (before.foldl Place.past place).line = place.line + before.count '\n' := by
  induction before generalizing place with
  | nil => simp
  | cons c before ih =>
    by_cases h : c = '\n'
    · simp [ih, Place.past, h, Nat.add_comm, Nat.add_left_comm]
    · simp [ih, Place.past, h]

/-- A named source text. -/
structure Source where
  label : String
  text : List Char

namespace Source

/-- The source that holds the characters of a string. -/
def ofString (label text : String) : Source := ⟨label, text.toList⟩

/-- Line and column of a byte offset. -/
def place (source : Source) (offset : Nat) : Place :=
  walk source.text offset Place.origin

/-- The piece of the source between two byte offsets. -/
def span (source : Source) (start stop : Nat) : Span :=
  { file := source.label
    line := (source.place start).line
    column := (source.place start).column
    start, stop }

end Source

end Stencil
