/-
What can go wrong from the name of a template to its text.
-/
import Stencil.Composition.Traced
import Stencil.Render.Error

namespace Stencil

/-- Why a template could not be put out. -/
inductive RenderError where
  | compose (error : ComposeError)
  | render (fault : RenderFault)
  /-- The context could not be made into a value. -/
  | encoding (message : String)

namespace RenderError

/-- A name of the cause that does not change with its wording. -/
def identifier : RenderError → String
  | compose error => error.identifier
  | render _ => "serialization_error"
  | encoding _ => "encoding_error"

/-- The error without its place. -/
def reason : RenderError → String
  | compose error => error.reason
  | render fault => fault.message
  | encoding message => "encoding error: " ++ message

/-- The place of the error, if it has one. -/
def span? : RenderError → Option Span
  | compose error => error.span?
  | render fault => fault.span?
  | encoding _ => none

/-- The error as it is shown, with its place where that is part of it. -/
def display : RenderError → String
  | compose error => error.display
  | render fault => "serialization error: " ++ fault.display
  | encoding message => "encoding error: " ++ message

end RenderError

end Stencil
