/-
Lines of a text.

A line reaches up to and including the characters that end it, so the lines of
a text make up the text.

* **`splitLines_flatten`** — the lines, one after the other, are the text;
* **`ne_nil_of_mem_splitLines`** — no line is empty.
-/
import Stencil.Text.Blank

namespace Stencil

/-- Whether a character ends a line. -/
def endsLine (c : Char) : Bool :=
  c ∈ ['\n', '\r', '\x0B', '\x0C', '\u0085', '\u2028', '\u2029']

/-- The lines of a text.  A carriage return and a line feed end a line together. -/
def splitLines : List Char → List (List Char)
  | [] => []
  | '\r' :: '\n' :: rest => ['\r', '\n'] :: splitLines rest
  | c :: rest =>
    if endsLine c then [c] :: splitLines rest
    else
      match splitLines rest with
      | [] => [[c]]
      | line :: lines => (c :: line) :: lines

@[simp] theorem splitLines_flatten (text : List Char) : (splitLines text).flatten = text := by
  fun_induction splitLines text <;> simp_all

theorem ne_nil_of_mem_splitLines {text line : List Char} (h : line ∈ splitLines text) :
    line ≠ [] := by
  fun_induction splitLines text generalizing line with
  | case1 => simp at h
  | case2 rest ih =>
    rcases List.mem_cons.1 h with rfl | h
    · simp
    · exact ih h
  | case3 c rest _ _ ih =>
    rcases List.mem_cons.1 h with rfl | h
    · simp
    · exact ih h
  | case4 => simp_all
  | case5 c rest _ _ line' lines hsplit ih =>
    rcases List.mem_cons.1 h with rfl | h
    · simp
    · exact ih (by rw [hsplit]; exact List.mem_cons_of_mem _ h)

/-- A text without the white characters at its end. -/
def dropWhiteEnd (text : List Char) : List Char :=
  (text.reverse.dropWhile isWhite).reverse

end Stencil
