/-
Parameter lists of tags.

`ParameterList.read` gives the expressions between the parentheses of a tag,
`ParameterList.readHeader` the name and the data between those of a loop.  Both
report one error: the first faulty import, if any, or else the token at which
the list goes wrong.
-/
import Stencil.Parameters.Reader

namespace Stencil

/-- The tokens between two parentheses, and the offset of the closing one. -/
structure ParameterList where
  lexemes : List Lexeme
  closing : Nat

namespace ParameterList

/-- The place of the end of a list: it starts at the closing parenthesis and
stops where the last token stops. -/
def endSpan (source : Source) (list : ParameterList) : Span :=
  source.span list.closing ((list.lexemes.getLast?.map Lexeme.stop).getD list.closing)

/-- The error of a list that goes wrong at a token, or at its end. -/
def mistake (source : Source) (list : ParameterList) (wanted : Wanted) : Option Lexeme → ParseError
  | some lexeme => ⟨.unexpectedToken lexeme.token wanted, source.span lexeme.start lexeme.stop⟩
  | none => ⟨.unexpectedEnd wanted, list.endSpan source⟩

/-- Read the items of a list from some of its tokens. -/
def readItems (source : Source) (list : ParameterList) (surrounding : Surrounding)
    (lexemes : List Lexeme) : Except ParseError (List Node) :=
  let (reader, stuck) := (Reader.start surrounding).run source lexemes
  match reader.outerFault with
  | some span => .error ⟨.importArguments, span⟩
  | none =>
    match stuck, reader.items? source with
    | none, some items => .ok items
    | stuck, _ => .error (list.mistake source reader.wanted stuck)

/-- The expressions of a parameter list. -/
def read (source : Source) (list : ParameterList) : Except ParseError (List Node) :=
  list.readItems source .list list.lexemes

/-- The name and the data of a loop: `name in expression`. -/
def readHeader (source : Source) (list : ParameterList) : Except ParseError (Node × Node) :=
  match list.lexemes with
  | [] => .error (list.mistake source .loopVariable none)
  | ⟨.name name, start, stop⟩ :: rest =>
    match rest with
    | [] => .error (list.mistake source .loopWord none)
    | ⟨.inWord, _, _⟩ :: rest =>
      match list.readItems source .header rest with
      | .error error => .error error
      | .ok [data] => .ok (.path (source.span start stop) [name], data)
      | .ok _ => .error (list.mistake source (.operand false) none)
    | lexeme :: _ => .error (list.mistake source .loopWord (some lexeme))
  | lexeme :: _ => .error (list.mistake source .loopVariable (some lexeme))

end ParameterList

end Stencil
