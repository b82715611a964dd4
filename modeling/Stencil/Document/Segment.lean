/-
Cutting a template into raw text and heads.

A `Segment` is a run of raw text, which may be empty, and the head behind it,
which is missing at the end of the template.  `Segment.scan` reads one:

* **`Segment.scan_length`** — a segment with a head leaves less text behind.

In raw text `\#` stands for a `#` that starts no tag, and a `#` that starts none
anyway stands for itself.
-/
import Stencil.Document.Head

namespace Stencil

/-- Raw text between two offsets, the head behind it, and the text left. -/
structure Segment where
  text : String
  start : Nat
  stop : Nat
  head : Option Head
  rest : List Char

namespace Segment

/-- Read raw text up to the next head.  The segment started at `start`, and the
characters in `done`, in reverse, have been read up to `offset`. -/
def scanFrom (source : Source) (closer : Option String) (start : Nat) :
    List Char → Nat → List Char → Except ParseError Segment
  | [], offset, done => .ok ⟨String.ofList done.reverse, start, offset, none, []⟩
  | '\\' :: '#' :: rest, offset, done =>
    scanFrom source closer start rest (offset + 2) ('#' :: done)
  | '#' :: rest, offset, done =>
    match Head.recognize source closer offset rest with
    | .error error => .error error
    | .ok (some (head, behind)) =>
      .ok ⟨String.ofList done.reverse, start, offset, some head, behind⟩
    | .ok none => scanFrom source closer start rest (offset + 1) ('#' :: done)
  | c :: rest, offset, done =>
    scanFrom source closer start rest (offset + c.utf8Size) (c :: done)

/-- The segment at the front of a text that starts at an offset. -/
def scan (source : Source) (closer : Option String) (text : List Char) (offset : Nat) :
    Except ParseError Segment :=
  scanFrom source closer offset text offset []

theorem scanFrom_length {source : Source} {closer : Option String} {start : Nat}
    {text : List Char} {offset : Nat} {done : List Char} {segment : Segment}
    (h : scanFrom source closer start text offset done = .ok segment)
    (hs : segment.head.isSome) : segment.rest.length < text.length := by
  fun_induction scanFrom source closer start text offset done with
  | case1 => cases h; cases hs
  | case2 offset done rest ih =>
    have := ih h
    simp only [List.length_cons]
    omega
  | case3 => cases h
  | case4 offset done rest head behind heq =>
    cases h
    have := Head.recognize_length heq
    simp only [List.length_cons]
    omega
  | case5 offset done rest heq ih =>
    have := ih h
    simp only [List.length_cons]
    omega
  | case6 offset done c rest _ _ ih =>
    have := ih h
    simp only [List.length_cons]
    omega

/-- A segment with a head leaves less text behind. -/
theorem scan_length {source : Source} {closer : Option String} {text : List Char} {offset : Nat}
    {segment : Segment} (h : scan source closer text offset = .ok segment)
    (hs : segment.head.isSome) : segment.rest.length < text.length :=
  scanFrom_length h hs

end Segment

end Stencil
