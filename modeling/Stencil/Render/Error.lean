/-
What can be wrong when a template is rendered.

A `RenderFault` is the cause of an error, and `Mismatch` the cause of one that
has to do with the kinds or the sizes of values.
-/
import Stencil.Tag

namespace Stencil

/-- Why an operation does not apply to its values. -/
inductive Mismatch where
  | overflow
  | divisionByZero
  | operands (op : Operator) (left right : String)
  | signed (op : Operator) (operand : String)
  | suffixed (op : Operator)
  | notIterable (kind : String)
  | loopVariable (found : String)
deriving DecidableEq

/-- The wording of a mismatch. -/
def Mismatch.message : Mismatch → String
  | overflow => "integer overflow"
  | divisionByZero => "division by zero"
  | operands op left right => s!"cannot apply '{op.symbol}' to {left} and {right}"
  | signed op operand => s!"cannot apply prefix '{op.symbol}' to {operand}"
  | suffixed op => s!"postfix '{op.symbol}' is not supported"
  | notIterable kind => s!"cannot iterate over {kind}"
  | loopVariable found => s!"loop variable must be a plain name, found {found}"

/-- Why a template could not be rendered. -/
inductive RenderFault where
  | unknownTag (name : String) (span : Span)
  /-- A node that composition should have replaced. -/
  | unresolved (kind : String) (span : Span)
  | unsupported (kind : String) (span : Span)
  | mismatch (cause : Mismatch) (span : Span)
  | tag (error : TagError) (span : Span)
  /-- A node of the host failed. -/
  | host (node message : String)
  /-- Nodes in values are nested deeper than rendering goes. -/
  | tooDeep
deriving DecidableEq

namespace RenderFault

/-- The error without its place. -/
def message : RenderFault → String
  | unknownTag name _ => s!"no tag named '{name}' is registered"
  | unresolved kind _ => s!"{kind} node was not resolved before rendering"
  | unsupported kind _ => s!"{kind} is not supported by this serializer"
  | mismatch cause _ => cause.message
  | tag error _ => error.message
  | host node message => s!"custom node '{node}': {message}"
  | tooDeep => "nodes in values are nested too deeply"

/-- The place of the error, if it has one. -/
def span? : RenderFault → Option Span
  | unknownTag _ span | unresolved _ span | unsupported _ span | mismatch _ span
  | tag _ span => some span
  | host .. | tooDeep => none

/-- The error with its place in front. -/
def display (fault : RenderFault) : String :=
  match fault.span? with
  | some span => span.cite ++ ": " ++ fault.message
  | none => fault.message

end RenderFault

end Stencil
