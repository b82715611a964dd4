/-
The operators of template expressions.

An operator has a symbol, and the infix ones have a strength: the stronger of
two neighbours takes the operand between them, and equals group to the left.
-/

namespace Stencil

/-- The operators, each named for what it does. -/
inductive Operator where
  | not
  | plus
  | minus
  | multiply
  | divide
  | modulo
  | equal
  | notEqual
  | less
  | lessOrEqual
  | greater
  | greaterOrEqual
  | and
  | or
deriving DecidableEq, Repr, Inhabited

namespace Operator

/-- Every operator. -/
def all : List Operator :=
  [.not, .plus, .minus, .multiply, .divide, .modulo, .equal, .notEqual, .less, .lessOrEqual,
    .greater, .greaterOrEqual, .and, .or]

/-- How the operator is spelled. -/
def symbol : Operator → String
  | not => "!"
  | plus => "+"
  | minus => "-"
  | multiply => "*"
  | divide => "/"
  | modulo => "%"
  | equal => "=="
  | notEqual => "!="
  | less => "<"
  | lessOrEqual => "<="
  | greater => ">"
  | greaterOrEqual => ">="
  | and => "&&"
  | or => "||"

/-- The word for the operator in a dump of a syntax tree. -/
def word : Operator → String
  | not => "Not"
  | plus => "Plus"
  | minus => "Minus"
  | multiply => "Multiply"
  | divide => "Divide"
  | modulo => "Modulo"
  | equal => "Equal"
  | notEqual => "NotEqual"
  | less => "Less"
  | lessOrEqual => "LessOrEqual"
  | greater => "Greater"
  | greaterOrEqual => "GreaterOrEqual"
  | and => "And"
  | or => "Or"

/-- How strongly an infix operator binds, from 1; 0 for the one that is not infix. -/
def strength : Operator → Nat
  | not => 0
  | or => 1
  | and => 2
  | equal | notEqual => 3
  | less | lessOrEqual | greater | greaterOrEqual => 4
  | plus | minus => 5
  | multiply | divide | modulo => 6

/-- Whether the operator may stand in front of its operand. -/
def isSign : Operator → Bool
  | not | minus => true
  | _ => false

/-- The infix operators, the strongest first and equals in the order in which
messages list them. -/
def infixes : List Operator :=
  [.multiply, .divide, .modulo, .plus, .minus, .lessOrEqual, .greaterOrEqual, .less, .greater,
    .equal, .notEqual, .and, .or]

theorem mem_infixes_iff (op : Operator) : op ∈ infixes ↔ 0 < op.strength := by
  cases op <;> decide

/-- The operator with a given symbol. -/
def ofSymbol? (symbol : String) : Option Operator :=
  all.find? fun op => op.symbol == symbol

theorem ofSymbol?_symbol (op : Operator) : ofSymbol? op.symbol = some op := by
  cases op <;> decide

end Operator

end Stencil
