/-
Reports of errors.

A report shows the error over the text in which it was found.
-/
import Stencil.Excerpt
import Stencil.Session.Error

namespace Stencil

/-- The headline of a fault. -/
def Fault.headline : Fault → String
  | unclosedBlock tag => s!"#{tag} is never closed"
  | fault => fault.message

/-- What is noted at the place of a fault: how to mend it, or what could have
stood there. -/
def Fault.note : Fault → String
  | unclosedBlock tag => s!"add #end{tag} to close this block"
  | invalidEncoding => "invalid byte sequence starts here"
  | fault =>
    match fault.expected with
    | [] => fault.message
    | expected => fault.message ++ "\nExpected: " ++ ", ".intercalate expected

/-- The report of a parse error over the text of the template. -/
def ParseError.report (error : ParseError) (text : String) : String :=
  (Excerpt.ofSpan error.span text error.fault.headline error.fault.note).draw text

/-- The report of an error over the text that its place is in. -/
def RenderError.report (error : RenderError) (text : String) : String :=
  match error with
  | .compose (.parse error) => error.report text
  | error =>
    match error.span? with
    | some span => (Excerpt.ofSpan span text error.reason error.identifier).draw text
    | none => error.reason

end Stencil
