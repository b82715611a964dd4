/-
Flat TOML documents.

`Toml.parse?` reads a TOML document whose entries are strings and truth values
at the top level, as a list of keys and items.  It refuses any other document:
settings have no use for tables, numbers, dates and arrays.
-/
import Stencil.Json

namespace Stencil.Toml

/-- The value of an entry. -/
inductive Item where
  | text (value : String)
  | truth (value : Bool)
deriving DecidableEq

/-- Whether a character may stand in a string or a comment as it is. -/
def isPlain (c : Char) : Bool :=
  c = '\t' || (0x20 ≤ c.toNat && c.toNat ≠ 0x7F)

/-- Whether a character may stand in a key without quotes. -/
def isBareKey (c : Char) : Bool := continuesName c || c = '-'

/-- Drop the blanks at the front of a text. -/
def skipSpace (text : List Char) : List Char :=
  text.dropWhile fun c => c = ' ' || c = '\t'

/-- Drop a line break at the front of a text. -/
def lineBreak? : List Char → Option (List Char)
  | '\n' :: rest => some rest
  | '\r' :: '\n' :: rest => some rest
  | _ => none

/-- Drop the blanks and line breaks at the front of a text. -/
def skipLines : List Char → List Char
  | ' ' :: rest | '\t' :: rest | '\n' :: rest => skipLines rest
  | '\r' :: '\n' :: rest => skipLines rest
  | text => text

theorem skipLines_length (text : List Char) : (skipLines text).length ≤ text.length := by
  fun_induction skipLines text <;> simp_all <;> omega

/-- The character with a given code, which must not be half of a pair. -/
def scalar? (code : Nat) : Option Char :=
  if code < 0xD800 ∨ (0xDFFF < code ∧ code < 0x110000) then some (Char.ofNat code) else none

/-- The character that an escape stands for, given the text behind the
backslash. -/
def escape? : List Char → Option (Char × List Char)
  | 'u' :: a :: b :: c :: d :: rest =>
    ((Json.hexNumber? 0 [a, b, c, d]).bind scalar?).map fun c => (c, rest)
  | 'U' :: a :: b :: c :: d :: e :: f :: g :: h :: rest =>
    ((Json.hexNumber? 0 [a, b, c, d, e, f, g, h]).bind scalar?).map fun c => (c, rest)
  | '/' :: _ => none
  | c :: rest => (Json.escaped? c).map fun c => (c, rest)
  | [] => none

theorem escape?_length {text rest : List Char} {c : Char} (h : escape? text = some (c, rest)) :
    rest.length < text.length := by
  unfold escape? at h
  split at h <;> simp only [Option.map_eq_some_iff, Prod.mk.injEq, reduceCtorEq] at h
  all_goals
    obtain ⟨_, _, _, rfl⟩ := h
    simp only [List.length_cons]
    omega

/-- The rest of a string between double quotes; `done` has been read. -/
def basic? (text done : List Char) : Option (String × List Char) :=
  match text with
  | '"' :: rest => some (String.ofList done.reverse, rest)
  | '\\' :: rest =>
    match _h : escape? rest with
    | some (c, rest) => basic? rest (c :: done)
    | none => none
  | c :: rest => if isPlain c then basic? rest (c :: done) else none
  | [] => none
termination_by text.length
decreasing_by
  · have := escape?_length _h
    simp only [List.length_cons]
    omega
  · simp

/-- The rest of a string between single quotes, which has no escapes. -/
def literal? (text done : List Char) : Option (String × List Char) :=
  match text with
  | '\'' :: rest => some (String.ofList done.reverse, rest)
  | c :: rest => if isPlain c then literal? rest (c :: done) else none
  | [] => none

/-- The number of quotes at the front of a text, up to five: three of them close
a string of several lines, and the others belong to it. -/
def quoteRun (quote : Char) (text : List Char) : Nat :=
  ((text.take 5).takeWhile (· == quote)).length

/-- The rest of a string between three double quotes. -/
def longBasic? (text done : List Char) : Option (String × List Char) :=
  match text with
  | [] => none
  | c :: rest =>
    if c = '"' then
      let run := quoteRun '"' (c :: rest)
      if 3 ≤ run then
        some (String.ofList (done.reverse ++ List.replicate (run - 3) '"'), (c :: rest).drop run)
      else longBasic? rest (c :: done)
    else if c = '\\' then
      match _h : escape? rest with
      | some (c, rest) => longBasic? rest (c :: done)
      | none =>
        match lineBreak? (skipSpace rest) with
        | some _ => longBasic? (skipLines rest) done
        | none => none
    else if c = '\n' then longBasic? rest (c :: done)
    else if c = '\r' then
      match rest with
      | '\n' :: rest => longBasic? rest ('\n' :: done)
      | _ => none
    else if isPlain c then longBasic? rest (c :: done)
    else none
termination_by text.length
decreasing_by
  · simp
  · have := escape?_length _h
    simp only [List.length_cons]
    omega
  · have := skipLines_length rest
    simp only [List.length_cons]
    omega
  · simp
  · simp only [List.length_cons]
    omega
  · simp

/-- The rest of a string between three single quotes. -/
def longLiteral? (text done : List Char) : Option (String × List Char) :=
  match text with
  | [] => none
  | '\r' :: '\n' :: rest => longLiteral? rest ('\n' :: done)
  | c :: rest =>
    if c = '\'' then
      let run := quoteRun '\'' (c :: rest)
      if 3 ≤ run then
        some (String.ofList (done.reverse ++ List.replicate (run - 3) '\''), (c :: rest).drop run)
      else longLiteral? rest (c :: done)
    else if c = '\n' || isPlain c then longLiteral? rest (c :: done)
    else none

/-- Drop the line break that may follow the opening quotes of a string. -/
def dropFirstBreak (text : List Char) : List Char := (lineBreak? text).getD text

/-- The value at the front of a text. -/
def value? : List Char → Option (Item × List Char)
  | '"' :: '"' :: '"' :: rest =>
    (longBasic? (dropFirstBreak rest) []).map fun (s, rest) => (.text s, rest)
  | '\'' :: '\'' :: '\'' :: rest =>
    (longLiteral? (dropFirstBreak rest) []).map fun (s, rest) => (.text s, rest)
  | '"' :: rest => (basic? rest []).map fun (s, rest) => (.text s, rest)
  | '\'' :: rest => (literal? rest []).map fun (s, rest) => (.text s, rest)
  | 't' :: 'r' :: 'u' :: 'e' :: rest => some (.truth true, rest)
  | 'f' :: 'a' :: 'l' :: 's' :: 'e' :: rest => some (.truth false, rest)
  | _ => none

/-- The key at the front of a text. -/
def key? : List Char → Option (String × List Char)
  | '"' :: rest => basic? rest []
  | '\'' :: rest => literal? rest []
  | text =>
    let name := text.takeWhile isBareKey
    if name.isEmpty then none else some (String.ofList name, text.dropWhile isBareKey)

/-- The entry at the front of a text. -/
def entry? (text : List Char) : Option ((String × Item) × List Char) := do
  let (key, rest) ← key? text
  match skipSpace rest with
  | '=' :: rest =>
    let (item, rest) ← value? (skipSpace rest)
    some ((key, item), rest)
  | _ => none

/-- What is left behind the comment and the line break that may end a line. -/
def endLine? (text : List Char) : Option (List Char) :=
  let behind :=
    match skipSpace text with
    | '#' :: rest => rest.dropWhile isPlain
    | rest => rest
  if behind.isEmpty then some [] else lineBreak? behind

/-- The entries of the lines of a text; the number bounds the lines. -/
def lines? : Nat → List Char → Option (List (String × Item))
  | 0, _ => none
  | fuel + 1, text =>
    match skipSpace text with
    | [] => some []
    | c :: rest =>
      if c = '#' ∨ c = '\n' ∨ c = '\r' then (endLine? (c :: rest)).bind (lines? fuel)
      else do
        let (entry, rest) ← entry? (c :: rest)
        let entries ← (← endLine? rest) |> lines? fuel
        some (entry :: entries)

/-- The entries of a document, which may start with a byte order mark. -/
def parse? (text : String) : Option (List (String × Item)) :=
  let chars := match text.toList with
    | '\uFEFF' :: rest => rest
    | chars => chars
  lines? (chars.length + 1) chars

end Stencil.Toml
