/-
What can be wrong with the text of a template.

A `Fault` is the cause of a parse error and `Fault.message` its wording.
`Wanted` describes a place in a parameter list by what could stand there, and
`Wanted.names` lists the tokens that messages name: those that are spelled in
one way only, in the order in which a reader of the grammar would try them.
-/
import Stencil.Token
import Stencil.Text.Position

namespace Stencil

/-- What could stand at a place of a parameter list. -/
inductive Wanted where
  /-- An operand, or the end of the list. -/
  | operand (orEnd : Bool)
  /-- What goes on or ends an expression: arguments behind a single name, a
  member behind a path, an infix operator, a further item, the end. -/
  | continuation (arguments member item : Bool)
  /-- A name behind a dot. -/
  | memberName
  | loopVariable
  | loopWord
deriving DecidableEq

/-- The tokens that could stand at a place and have one spelling. -/
def Wanted.names : Wanted → List String
  | .operand orEnd => ["'!'", "'-'", "'('"] ++ if orEnd then ["')'"] else []
  | .continuation arguments member item =>
    (if arguments then ["'('"] else []) ++ (if member then ["'.'"] else []) ++
      Operator.infixes.map (fun op => s!"'{op.symbol}'") ++
      (if item then ["','"] else []) ++ ["')'"]
  | .memberName => []
  | .loopVariable => ["loop variable"]
  | .loopWord => ["keyword 'in'"]

/-- The causes of parse errors. -/
inductive Fault where
  | unexpectedToken (token : Token) (wanted : Wanted)
  | unexpectedEnd (wanted : Wanted)
  /-- An import in an expression takes one string. -/
  | importArguments
  /-- A character that belongs to no token. -/
  | strayCharacter (c : Char)
  | unclosedParameters
  | parametersMissing (tag : String)
  | parameterCount (tag : String) (found : Nat)
  | literalMissing (tag found : String)
  | bodyMissing (tag : String)
  | bodyForbidden (tag : String)
  /-- A closing or continuing tag that nothing precedes. -/
  | unexpectedTag (tag : String)
  /-- Text between the exports of an extend. -/
  | textInExtend
  | tagInExtend (tag : String)
  | exportOutside
  | exportUnnamed
  | exportShape
  | exportTwice (name : String)
  | unclosedBlock (tag : String)
  | invalidEncoding

namespace Fault

/-- The wording of a fault. -/
def message : Fault → String
  | unexpectedToken token _ => s!"Unexpected {token.describe}"
  | unexpectedEnd _ => "Unexpected end of parameters"
  | importArguments => "import expects a single string literal"
  | strayCharacter c => "Unexpected character '" ++ c.toString ++ "' in tag parameters"
  | unclosedParameters => "Unclosed '(' in tag parameters"
  | parametersMissing tag => s!"#{tag} requires parameters"
  | parameterCount tag found => s!"#{tag} expects exactly one parameter, found {found}"
  | literalMissing tag found => s!"#{tag} expects a string literal, found {found}"
  | bodyMissing tag => s!"#{tag} requires a body"
  | bodyForbidden tag => s!"#{tag} does not take a body"
  | unexpectedTag tag => s!"Unexpected #{tag}"
  | textInExtend => "Only #export declarations are allowed inside #extend"
  | tagInExtend tag => s!"Unexpected #{tag} inside #extend"
  | exportOutside => "#export is only allowed directly inside an #extend body"
  | exportUnnamed => "#export expects a string literal name"
  | exportShape => "#export takes either a value parameter or a body"
  | exportTwice name => s!"Duplicate export '{name}'"
  | unclosedBlock tag => s!"#{tag} is never closed (expected #end{tag})"
  | invalidEncoding => "template is not valid UTF-8"

/-- What could have stood at the place of a fault. -/
def expected : Fault → List String
  | unexpectedToken _ wanted | unexpectedEnd wanted => wanted.names
  | unclosedParameters => ["')'"]
  | parametersMissing _ => ["'('"]
  | bodyMissing _ => ["':'"]
  | textInExtend | tagInExtend _ => ["#export", "#endextend"]
  | _ => []

end Fault

/-- A fault and the place that shows it. -/
structure ParseError where
  fault : Fault
  span : Span

namespace ParseError

/-- The error without its place. -/
def message (error : ParseError) : String := error.fault.message

/-- The error with its place in front. -/
def display (error : ParseError) : String := error.span.cite ++ ": " ++ error.message

end ParseError

end Stencil
