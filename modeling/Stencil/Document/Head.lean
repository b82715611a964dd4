/-
The heads of tags.

A head is what follows a `#` that starts a tag: a name, parameters between
parentheses if there are any, and a colon if a body follows.
`Head.recognize` tells whether a head follows and reads it:

* **`Head.collect_eq`** — collecting the tokens of the parameters step by step;
* **`Head.recognize_eq_some`** — the two forms of heads;
* **`Head.recognize_length`** — a head never leaves more text than there was.

## Design notes

A `#` and a name alone are text, unless the name is one of `bareNames` or closes
the innermost block; `#(` and `#name(` are heads always.  A name that merely
starts with the closing name is cut there, so that text may follow a block
without a blank between them.
-/
import Stencil.Parameters
import Stencil.Token.Lexer

namespace Stencil

/-- A tag as it is written, before its meaning is looked at. -/
structure Head where
  name : String
  parameters : Option ParameterList
  hasBody : Bool
  start : Nat
  stop : Nat

namespace Head

/-- The names that make a head without parentheses and without a colon. -/
def bareNames : List String := ["endif", "endfor", "endextend", "endexport", "else"]

/-- The tokens up to the parenthesis that matches the one at `opening`, given
the text behind that one, and the text behind the match. -/
def collect (source : Source) (opening : Nat) (text : List Char) (offset depth : Nat)
    (done : List Lexeme) : Except ParseError (ParameterList × List Char) :=
  match h : nextPiece text offset with
  | none => .error ⟨.unclosedParameters, source.span opening (opening + 1)⟩
  | some (.rejected first start stop, _, _) =>
    .error ⟨.strayCharacter first, source.span start stop⟩
  | some (.lexeme lexeme, rest, stop) =>
    have := nextPiece_length h
    match lexeme.token, depth with
    | .opening, _ => collect source opening rest stop (depth + 1) (lexeme :: done)
    | .closing, 0 => .ok (⟨done.reverse, lexeme.start⟩, rest)
    | .closing, depth + 1 => collect source opening rest stop depth (lexeme :: done)
    | _, _ => collect source opening rest stop depth (lexeme :: done)
termination_by text.length

/-- The part of a name that counts while a closing name is awaited. -/
def cutName (closer : Option String) (name : List Char) : List Char :=
  match closer with
  | some closer => if closer.toList.isPrefixOf name then closer.toList else name
  | none => name

/-- Whether a name makes a head without parameters. -/
def standsAlone (closer : Option String) (name : String) (rest : List Char) : Bool :=
  !name.isEmpty && (rest.head? == some ':' || bareNames.contains name || closer == some name)

/-- The colon behind a head, if it has one: only a named tag has. -/
def colon (name : String) : List Char → Bool × List Char
  | ':' :: rest => if name.isEmpty then (false, ':' :: rest) else (true, rest)
  | rest => (false, rest)

/-- Complete a head whose name and parameters end at `cursor`. -/
def complete (name : String) (parameters : Option ParameterList) (start cursor : Nat)
    (text : List Char) : Head × List Char :=
  let behind := colon name text
  (⟨name, parameters, behind.1, start, if behind.1 then cursor + 1 else cursor⟩, behind.2)

/-- The head that starts with a `#` at offset `start`, given the text behind the
`#`, and the text behind the head; `none` if the `#` is just text. -/
def recognize (source : Source) (closer : Option String) (start : Nat) (text : List Char) :
    Except ParseError (Option (Head × List Char)) :=
  let chars := cutName closer (text.takeWhile continuesName)
  let name := String.ofList chars
  let cursor := start + 1 + byteLength chars
  match text.drop chars.length with
  | '(' :: rest =>
    match collect source cursor rest (cursor + 1) 0 [] with
    | .error error => .error error
    | .ok (list, rest) => .ok (some (complete name (some list) start (list.closing + 1) rest))
  | rest =>
    if standsAlone closer name rest then .ok (some (complete name none start cursor rest))
    else .ok none

/-- Collecting step by step: a token, what it does to the depth, and the rest. -/
theorem collect_eq (source : Source) (opening : Nat) (text : List Char) (offset depth : Nat)
    (done : List Lexeme) :
    collect source opening text offset depth done =
      match nextPiece text offset with
      | none => .error ⟨.unclosedParameters, source.span opening (opening + 1)⟩
      | some (.rejected first start stop, _, _) =>
        .error ⟨.strayCharacter first, source.span start stop⟩
      | some (.lexeme lexeme, rest, stop) =>
        match lexeme.token, depth with
        | .opening, _ => collect source opening rest stop (depth + 1) (lexeme :: done)
        | .closing, 0 => .ok (⟨done.reverse, lexeme.start⟩, rest)
        | .closing, depth + 1 => collect source opening rest stop depth (lexeme :: done)
        | _, _ => collect source opening rest stop depth (lexeme :: done) := by
  rw [collect]
  split
  all_goals
    rename_i h
    conv => rhs; rw [h]

theorem collect_length {source : Source} {opening : Nat} {text : List Char} {offset depth : Nat}
    {done : List Lexeme} {list : ParameterList} {rest : List Char}
    (h : collect source opening text offset depth done = .ok (list, rest)) :
    rest.length < text.length := by
  fun_induction collect source opening text offset depth done with
  | case1 => cases h
  | case2 => cases h
  | case3 text offset depth done lexeme rest' stop heq hlt htoken ih =>
    exact Nat.lt_trans (ih h) hlt
  | case4 text offset done lexeme rest' stop heq hlt htoken =>
    cases h
    exact hlt
  | case5 text offset done lexeme rest' stop heq hlt depth htoken ih =>
    exact Nat.lt_trans (ih h) hlt
  | case6 text offset depth done lexeme rest' stop heq hlt _ _ _ ih =>
    exact Nat.lt_trans (ih h) hlt

/-- The text behind a head stands behind its name and its parameters. -/
theorem complete_isSuffix (name : String) (parameters : Option ParameterList)
    (start cursor : Nat) (text : List Char) :
    (complete name parameters start cursor text).2 <:+ text := by
  unfold complete colon
  split
  · split
    · exact List.suffix_refl _
    · exact List.suffix_cons _ _
  · exact List.suffix_refl _

/-- A head that no colon follows has no body. -/
theorem complete_of_head?_ne {text : List Char} (h : text.head? ≠ some ':') (name : String)
    (parameters : Option ParameterList) (start cursor : Nat) :
    complete name parameters start cursor text =
      (⟨name, parameters, false, start, cursor⟩, text) := by
  unfold complete colon
  split
  · exact absurd rfl h
  · rfl

/-- Some characters are the name of a head in front of a text. -/
def Names (closer : Option String) (chars behind : List Char) : Prop :=
  cutName closer ((chars ++ behind).takeWhile continuesName) = chars

section

variable {closer : Option String} {chars behind : List Char}

theorem cutName_isPrefix (closer : Option String) (name : List Char) :
    cutName closer name <+: name := by
  unfold cutName
  split
  · split
    · rename_i h
      exact List.isPrefixOf_iff_prefix.1 h
    · exact List.prefix_refl name
  · exact List.prefix_refl name

theorem exists_names (closer : Option String) (text : List Char) :
    ∃ chars behind, text = chars ++ behind ∧ Names closer chars behind := by
  obtain ⟨behind, hbehind⟩ := (cutName_isPrefix closer (text.takeWhile continuesName)).trans
    (List.takeWhile_prefix continuesName)
  refine ⟨_, behind, hbehind.symm, ?_⟩
  rw [Names, hbehind]

theorem Names.continues (h : Names closer chars behind) : ∀ c ∈ chars, continuesName c := by
  intro c hc
  have hstarts : cutName closer ((chars ++ behind).takeWhile continuesName) <+:
      (chars ++ behind).takeWhile continuesName := cutName_isPrefix closer _
  rw [h] at hstarts
  exact List.all_eq_true.1 List.all_takeWhile c (hstarts.subset hc)

/-- The name of a closing tag ends where the closing name ends, whatever follows. -/
theorem names_closer {closer : String} (h : ∀ c ∈ closer.toList, continuesName c)
    (behind : List Char) : Names (some closer) closer.toList behind := by
  rw [Names, List.takeWhile_append_of_pos h, cutName,
    if_pos (List.isPrefixOf_iff_prefix.2 (List.prefix_append ..))]

/-- A name and an opening parenthesis make a head with the parameters behind them. -/
theorem Names.recognize_opening {parameters : List Char}
    (h : Names closer chars ('(' :: parameters)) (source : Source) (start : Nat) :
    recognize source closer start (chars ++ '(' :: parameters) =
      match collect source (start + 1 + byteLength chars) parameters
          (start + 1 + byteLength chars + 1) 0 [] with
      | .error error => .error error
      | .ok (list, rest) =>
        .ok (some (complete (String.ofList chars) (some list) start (list.closing + 1) rest)) := by
  unfold recognize
  dsimp only
  rw [h, List.drop_left]
  rfl

/-- A name without parameters makes a head if it stands alone. -/
theorem Names.recognize_bare (h : Names closer chars behind) (hbehind : behind.head? ≠ some '(')
    (source : Source) (start : Nat) :
    recognize source closer start (chars ++ behind) =
      if standsAlone closer (String.ofList chars) behind then
        .ok (some (complete (String.ofList chars) none start (start + 1 + byteLength chars) behind))
      else .ok none := by
  unfold recognize
  dsimp only
  rw [h, List.drop_left]
  split
  · exact absurd rfl hbehind
  · rfl

/-- The head that closes a block is recognized whatever follows, and takes a colon along. -/
theorem recognize_closer {closer : String} {tail : List Char}
    (hcontinues : ∀ c ∈ closer.toList, continuesName c) (hne : closer.toList ≠ [])
    (htail : tail.head? ≠ some '(') (source : Source) (start : Nat) :
    recognize source (some closer) start (closer.toList ++ tail) =
      .ok (some (complete closer none start (start + 1 + byteLength closer.toList) tail)) := by
  have halone : standsAlone (some closer) closer tail := by
    have hname : closer.isEmpty = false := by simpa using hne
    simp [standsAlone, hname]
  rw [(names_closer hcontinues tail).recognize_bare htail, String.ofList_toList, if_pos halone]

/-- A head has parameters, or a name that stands alone. -/
theorem recognize_eq_some {source : Source} {start : Nat} {text rest : List Char} {head : Head}
    (h : recognize source closer start text = .ok (some (head, rest))) :
    ∃ chars behind, text = chars ++ behind ∧ Names closer chars behind ∧
      ((∃ parameters list rest', behind = '(' :: parameters ∧
          collect source (start + 1 + byteLength chars) parameters
            (start + 1 + byteLength chars + 1) 0 [] = .ok (list, rest') ∧
          complete (String.ofList chars) (some list) start (list.closing + 1) rest' =
            (head, rest)) ∨
        (behind.head? ≠ some '(' ∧ standsAlone closer (String.ofList chars) behind ∧
          complete (String.ofList chars) none start (start + 1 + byteLength chars) behind =
            (head, rest))) := by
  obtain ⟨chars, behind, rfl, hnames⟩ := exists_names closer text
  refine ⟨chars, behind, rfl, hnames, ?_⟩
  by_cases hopening : behind.head? = some '('
  · obtain ⟨parameters, rfl⟩ := List.head?_eq_some_iff.1 hopening
    rw [hnames.recognize_opening] at h
    split at h
    · cases h
    · rename_i list rest' hcollect
      exact .inl ⟨parameters, list, rest', rfl, hcollect, Option.some.inj (Except.ok.inj h)⟩
  · rw [hnames.recognize_bare hopening] at h
    split at h
    · rename_i halone
      exact .inr ⟨hopening, halone, Option.some.inj (Except.ok.inj h)⟩
    · cases h

end

/-- A head never leaves more text than there was. -/
theorem recognize_length {source : Source} {closer : Option String} {start : Nat}
    {text rest : List Char} {head : Head}
    (h : recognize source closer start text = .ok (some (head, rest))) :
    rest.length ≤ text.length := by
  obtain ⟨chars, behind, rfl, -, hhead⟩ := recognize_eq_some h
  have hcomplete {name : String} {parameters : Option ParameterList} {cursor : Nat}
      {text : List Char} (h : complete name parameters start cursor text = (head, rest)) :
      rest.length ≤ text.length := by
    have hsuffix := complete_isSuffix name parameters start cursor text
    rw [h] at hsuffix
    exact hsuffix.length_le
  rw [List.length_append]
  rcases hhead with ⟨parameters, list, rest', rfl, hcollect, h⟩ | ⟨-, -, h⟩
  · have hlist := collect_length hcollect
    have hrest := hcomplete h
    rw [List.length_cons]
    omega
  · have hrest := hcomplete h
    omega

end Head

end Stencil
