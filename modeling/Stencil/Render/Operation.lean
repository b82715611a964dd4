/-
The operations of expressions.

`applyBinary` and `applySign` are what operators do to values.  Integers have 64
bits and nothing wraps: a result that does not fit is an error, and so is a
division by zero.  An operation on an integer and a double is one on doubles.
-/
import Stencil.Render.Error
import Stencil.Decimal.Binary

namespace Stencil

/-- An integer, if it fits 64 bits. -/
def fit (n : Int) : Except Mismatch Int64 :=
  if Int64.minValue.toInt ≤ n ∧ n ≤ Int64.maxValue.toInt then .ok (Int64.ofInt n)
  else .error .overflow

/-- Arithmetic on integers.  The quotient is truncated towards zero, and the
remainder, which has the sign of the dividend, exists only if the quotient
fits. -/
def applyInt (op : Operator) (a b : Int64) : Except Mismatch Int64 :=
  match op with
  | .plus => fit (a.toInt + b.toInt)
  | .minus => fit (a.toInt - b.toInt)
  | .multiply => fit (a.toInt * b.toInt)
  | .divide =>
    if b = 0 then .error .divisionByZero else fit (a.toInt.tdiv b.toInt)
  | .modulo =>
    if b = 0 then .error .divisionByZero
    else do
      let _ ← fit (a.toInt.tdiv b.toInt)
      fit (a.toInt.tmod b.toInt)
  | op => .error (.operands op "int" "int")

/-- Arithmetic on doubles. -/
def applyDouble (op : Operator) (a b : Float) : Except Mismatch Float :=
  match op with
  | .plus => .ok (a + b)
  | .minus => .ok (a - b)
  | .multiply => .ok (a * b)
  | .divide => .ok (a / b)
  | .modulo => .ok (Double.remainder a b)
  | op => .error (.operands op "double" "double")

/-- Two numbers of one kind. -/
inductive Numbers where
  | ints (a b : Int64)
  | doubles (a b : Float)

/-- Two values as numbers of one kind, if both are numbers. -/
def numbers? : Value → Value → Option Numbers
  | .int a, .int b => some (.ints a b)
  | .int a, .double b => some (.doubles (Double.ofInt64 a) b)
  | .double a, .int b => some (.doubles a (Double.ofInt64 b))
  | .double a, .double b => some (.doubles a b)
  | _, _ => none

/-- Whether two values are equal for the operator `==`. -/
def looselyEqual (left right : Value) : Bool :=
  match numbers? left right with
  | some (.ints a b) => a == b
  | some (.doubles a b) => a == b
  | none => left.same right

/-- The order of two doubles, which is missing if one of them is no number. -/
def compareDoubles (a b : Float) : Option Ordering :=
  if a < b then some .lt else if a == b then some .eq else if b < a then some .gt else none

/-- The order of two values: numbers by size, strings by code points. -/
def order? (left right : Value) : Option Ordering :=
  match numbers? left right with
  | some (.ints a b) => some (compare a.toInt b.toInt)
  | some (.doubles a b) => compareDoubles a b
  | none =>
    match left, right with
    | .string a, .string b => some (compare a b)
    | _, _ => none

/-- What a comparison says about an order. -/
def orderHolds (op : Operator) (order : Ordering) : Bool :=
  match op with
  | .less => order == .lt
  | .lessOrEqual => order != .gt
  | .greater => order == .gt
  | _ => order != .lt

/-- Arithmetic on two values. -/
def applyArithmetic (op : Operator) (left right : Value) : Except Mismatch Value :=
  match numbers? left right with
  | some (.ints a b) => (applyInt op a b).map .int
  | some (.doubles a b) => (applyDouble op a b).map .double
  | none => .error (.operands op left.kind right.kind)

/-- Whether a sum is the concatenation of texts. -/
def isConcatenation (left right : Value) : Bool :=
  match left, right with
  | .string _, _ | _, .string _ => true
  | _, _ => false

/-- What an infix operator makes of two values. -/
def applyBinary (op : Operator) (left right : Value) : Except Mismatch Value :=
  match op with
  | .equal => .ok (.bool (looselyEqual left right))
  | .notEqual => .ok (.bool (!looselyEqual left right))
  | .less | .lessOrEqual | .greater | .greaterOrEqual =>
    match order? left right with
    | some order => .ok (.bool (orderHolds op order))
    | none => .error (.operands op left.kind right.kind)
  | .plus =>
    if isConcatenation left right then .ok (.string (left.display ++ right.display))
    else applyArithmetic .plus left right
  | .minus | .multiply | .divide | .modulo => applyArithmetic op left right
  | .not | .and | .or => .error (.operands op left.kind right.kind)

/-- What a sign makes of a value. -/
def applySign (op : Operator) (value : Value) : Except Mismatch Value :=
  match op, value with
  | .not, _ => .ok (.bool (!value.isTruthy))
  | .minus, .int n => (fit (-n.toInt)).map .int
  | .minus, .double x => .ok (.double (-x))
  | _, _ => .error (.signed op value.kind)

end Stencil
