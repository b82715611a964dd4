/-
Cutting parameter text into tokens.

`Stretch.cut` takes the longest token off the front of a text, or else the
stretch that can belong to no token.  `lex` repeats that to the end of the
text, and `Lexeme` offsets count bytes:

* **`Stretch.cut_append`** — what is cut off and what is left make up the text;
* **`Stretch.cut_ne_nil`** — something is always cut off;
* **`skipBlank_length`** — skipping never makes the text longer.

## Design notes

The first character decides which kind of token can stand at a place, so the
longest match is a matter of reading that one kind as far as it goes.  A string
may hold any character; a backslash in it takes the next character along,
unless that is a line feed or there is none.  A string that cannot be closed is
cut off where it fails: at the end of the text, or before the backslash that
takes nothing along.
-/
import Stencil.Decimal.Reader
import Stencil.Text.Position
import Stencil.Token

namespace Stencil

/-- The characters that may stand between tokens. -/
def isBlank (c : Char) : Bool :=
  c = ' ' || c = '\t' || c = '\n' || c = '\r'

/-- Whether a character may start a name. -/
def startsName (c : Char) : Bool :=
  ('a' ≤ c && c ≤ 'z') || ('A' ≤ c && c ≤ 'Z') || c = '_'

/-- Whether a character may go on a name. -/
def continuesName (c : Char) : Bool :=
  startsName c || isDigit c

/-- A text cut in two, with the token that the first part spells, if any. -/
structure Stretch where
  token : Option Token
  chars : List Char
  rest : List Char

namespace Stretch

/-- The content of a string without its quotes: a backslash stands for the
character behind it, `\n` and `\t` for line feed and tab. -/
def unescape : List Char → List Char
  | [] => []
  | '\\' :: 'n' :: rest => '\n' :: unescape rest
  | '\\' :: 't' :: rest => '\t' :: unescape rest
  | '\\' :: c :: rest => c :: unescape rest
  | c :: rest => c :: unescape rest

/-- A text cut at the end of a string. -/
structure Quoted where
  closed : Bool
  body : List Char
  rest : List Char

/-- The string with a longer body. -/
def Quoted.prepend (chars : List Char) (q : Quoted) : Quoted :=
  { q with body := chars ++ q.body }

/-- The body of a string up to its closing quote, which belongs to neither part.
A string that is not closed has all that could be read as its body. -/
def quoted : List Char → Quoted
  | [] => ⟨false, [], []⟩
  | '\\' :: c :: rest =>
    if c = '\n' then ⟨false, [], '\\' :: c :: rest⟩ else (quoted rest).prepend ['\\', c]
  | '"' :: rest => ⟨true, [], rest⟩
  | c :: rest => if c = '\\' then ⟨false, [], c :: rest⟩ else (quoted rest).prepend [c]

/-- What a name spells: a keyword or itself. -/
def word (text : String) : Token :=
  if text = "true" then .truth true
  else if text = "false" then .truth false
  else if text = "in" then .inWord
  else .name text

/-- What a run of digits spells, unless the number has more than 63 bits. -/
def integer (digits : List Char) : Option Token :=
  let n := natOfDigits digits
  if n < Nat.pow 2 63 then some (.int (Int64.ofNat n)) else none

/-- The fraction behind the whole part of a number: a point, digits, the rest. -/
def fraction? : List Char → Option (List Char × List Char)
  | '.' :: d :: rest =>
    if isDigit d then some ((d :: rest).takeWhile isDigit, (d :: rest).dropWhile isDigit)
    else none
  | _ => none

/-- A number whose whole part has been cut off: with a fraction it is a double. -/
def number (whole rest : List Char) : Stretch :=
  match fraction? rest with
  | some (fraction, tail) =>
    ⟨some (.double (Double.ofParts false whole fraction 0)), whole ++ '.' :: fraction, tail⟩
  | none => ⟨integer whole, whole, rest⟩

/-- A string at the front of a text, behind its opening quote. -/
def string (text : List Char) : Stretch :=
  let q := quoted text
  if q.closed then ⟨some (.text (String.ofList (unescape q.body))), '"' :: q.body ++ ['"'], q.rest⟩
  else ⟨none, '"' :: q.body, q.rest⟩

/-- The token that one character spells by itself. -/
def symbol1 (c : Char) : Option Token :=
  match c with
  | '(' => some .opening
  | ')' => some .closing
  | ',' => some .comma
  | '.' => some .dot
  | '<' => some (.operator .less)
  | '>' => some (.operator .greater)
  | '!' => some (.operator .not)
  | '+' => some (.operator .plus)
  | '-' => some (.operator .minus)
  | '*' => some (.operator .multiply)
  | '/' => some (.operator .divide)
  | '%' => some (.operator .modulo)
  | _ => none

/-- The token that two characters spell together. -/
def symbol2 (c d : Char) : Option Token :=
  match c, d with
  | '=', '=' => some (.operator .equal)
  | '!', '=' => some (.operator .notEqual)
  | '<', '=' => some (.operator .lessOrEqual)
  | '>', '=' => some (.operator .greaterOrEqual)
  | '&', '&' => some (.operator .and)
  | '|', '|' => some (.operator .or)
  | _, _ => none

/-- A symbol at the front of a text, or one character that is none. -/
def symbol (c : Char) (rest : List Char) : Stretch :=
  match rest with
  | [] => ⟨symbol1 c, [c], []⟩
  | d :: more =>
    match symbol2 c d with
    | some token => ⟨some token, [c, d], more⟩
    | none => ⟨symbol1 c, [c], d :: more⟩

/-- Cut the first token, or what can be none, off a text that starts with `c`. -/
def cut (c : Char) (rest : List Char) : Stretch :=
  if startsName c then
    let chars := c :: rest.takeWhile continuesName
    ⟨some (word (String.ofList chars)), chars, rest.dropWhile continuesName⟩
  else if isDigit c then number ((c :: rest).takeWhile isDigit) ((c :: rest).dropWhile isDigit)
  else if c = '"' then string rest
  else symbol c rest

/-- A word is no parenthesis. -/
theorem word_ne (text : String) : word text ≠ .opening ∧ word text ≠ .closing := by
  unfold word
  repeat' split
  all_goals simp

theorem quoted_append (text : List Char) :
    (quoted text).body ++ (if (quoted text).closed then ['"'] else []) ++ (quoted text).rest =
      text := by
  fun_induction quoted text with
  | case1 => rfl
  | case2 => simp_all
  | case3 c rest _ ih => exact congrArg (fun t => '\\' :: c :: t) ih
  | case4 => rfl
  | case5 => simp_all
  | case6 c rest _ _ _ ih => exact congrArg (c :: ·) ih

theorem fraction?_append {rest fraction tail : List Char}
    (h : fraction? rest = some (fraction, tail)) : '.' :: fraction ++ tail = rest := by
  unfold fraction? at h
  split at h
  · split at h
    · cases h
      simp only [List.cons_append, List.takeWhile_append_dropWhile]
    · cases h
  · cases h

theorem number_append (whole rest : List Char) :
    (number whole rest).chars ++ (number whole rest).rest = whole ++ rest := by
  unfold number
  split
  · rename_i fraction tail h
    simp [← fraction?_append h]
  · rfl

theorem string_append (text : List Char) :
    (string text).chars ++ (string text).rest = '"' :: text := by
  have h := quoted_append text
  unfold string
  by_cases hc : (quoted text).closed <;> simp_all

theorem symbol_append (c : Char) (rest : List Char) :
    (symbol c rest).chars ++ (symbol c rest).rest = c :: rest := by
  unfold symbol
  split
  · rfl
  · split <;> rfl

/-- What is cut off and what is left make up the text. -/
theorem cut_append (c : Char) (rest : List Char) :
    (cut c rest).chars ++ (cut c rest).rest = c :: rest := by
  unfold cut
  split
  · simp
  split
  · rw [number_append, List.takeWhile_append_dropWhile]
  split
  · rename_i h
    rw [h, string_append]
  · exact symbol_append c rest

/-- Something is always cut off. -/
theorem cut_ne_nil (c : Char) (rest : List Char) : (cut c rest).chars ≠ [] := by
  unfold cut
  split
  · simp
  split
  · rename_i h
    unfold number
    split <;> simp [h]
  split
  · unfold string
    by_cases hc : (quoted rest).closed <;> simp [hc]
  · unfold symbol
    split
    · simp
    · split <;> simp

theorem cut_rest_length (c : Char) (rest : List Char) :
    (cut c rest).rest.length ≤ rest.length := by
  have h := congrArg List.length (cut_append c rest)
  have := List.length_pos_iff.2 (cut_ne_nil c rest)
  simp only [List.length_append, List.length_cons] at h
  omega

end Stretch

/-- Drop the blanks in front of a text; the offset moves along. -/
def skipBlank : List Char → Nat → List Char × Nat
  | [], offset => ([], offset)
  | c :: rest, offset =>
    if isBlank c then skipBlank rest (offset + c.utf8Size) else (c :: rest, offset)

theorem skipBlank_length (text : List Char) (offset : Nat) :
    (skipBlank text offset).1.length ≤ text.length := by
  induction text generalizing offset with
  | nil => simp [skipBlank]
  | cons c rest ih =>
    unfold skipBlank
    split
    · exact Nat.le_succ_of_le (ih _)
    · simp

/-- A stretch of a text, with the byte offsets between which it stands.  Of one
that is no token the first character is kept. -/
inductive Piece where
  | lexeme (lexeme : Lexeme)
  | rejected (first : Char) (start stop : Nat)

/-- The first stretch of a text that starts at byte `offset`, and what is left
behind it; `none` if only blanks are left. -/
def nextPiece (text : List Char) (offset : Nat) : Option (Piece × List Char × Nat) :=
  match skipBlank text offset with
  | ([], _) => none
  | (c :: rest, start) =>
    let stretch := Stretch.cut c rest
    let stop := start + byteLength stretch.chars
    let piece :=
      match stretch.token with
      | some token => Piece.lexeme ⟨token, start, stop⟩
      | none => Piece.rejected c start stop
    some (piece, stretch.rest, stop)

/-- Each stretch leaves less text behind it. -/
theorem nextPiece_length {text : List Char} {offset : Nat} {piece : Piece} {rest : List Char}
    {stop : Nat} (h : nextPiece text offset = some (piece, rest, stop)) :
    rest.length < text.length := by
  unfold nextPiece at h
  have hs := skipBlank_length text offset
  split at h
  · cases h
  · rename_i c tail start heq
    rw [heq] at hs
    have := Stretch.cut_rest_length c tail
    simp only [Option.some.injEq, Prod.mk.injEq] at h
    obtain ⟨-, rfl, -⟩ := h
    simp only [List.length_cons] at hs
    omega

/-- The stretches of a text that starts at byte `offset`. -/
def lexFrom (text : List Char) (offset : Nat) : List Piece :=
  match h : nextPiece text offset with
  | none => []
  | some (piece, rest, stop) =>
    have := nextPiece_length h
    piece :: lexFrom rest stop
termination_by text.length

/-- The stretches of a text. -/
def lex (text : List Char) : List Piece := lexFrom text 0

end Stencil
