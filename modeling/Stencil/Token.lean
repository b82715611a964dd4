/-
The tokens of a tag's parameters.

A `Token` is what a stretch of text between a tag's parentheses means;
`Token.describe` is its name in messages.
-/
import Stencil.Decimal.Layout
import Stencil.Operator

namespace Stencil

/-- A token of a parameter list. -/
inductive Token where
  | truth (value : Bool)
  | inWord
  | opening
  | closing
  | comma
  | dot
  | operator (op : Operator)
  | name (spelling : String)
  | text (content : String)
  | double (value : Float)
  | int (value : Int64)

/-- The name of a token in messages. -/
def Token.describe : Token → String
  | .truth true => "'true'"
  | .truth false => "'false'"
  | .inWord => "keyword 'in'"
  | .opening => "'('"
  | .closing => "')'"
  | .comma => "','"
  | .dot => "'.'"
  | .operator op => s!"'{op.symbol}'"
  | .name spelling => s!"identifier '{spelling}'"
  | .text content => "string \"" ++ content ++ "\""
  | .double value => s!"number {Double.Layout.plain.write value}"
  | .int value => s!"number {value.toInt}"

/-- A token and the byte offsets between which it stands. -/
structure Lexeme where
  token : Token
  start : Nat
  stop : Nat

end Stencil
