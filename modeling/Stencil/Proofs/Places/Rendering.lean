/-
The places of errors of rendering.

A template is rendered from many: those that it extends, and those that these
extend.  An error of rendering tells the file in which its place is found.

* **`Span.PointsInto`** — a span is a place in the bytes of a template, with the
  line and the column of its start;
* **`Session.perform_render_points`** — the place of an error is one in a template
  that was loaded, under the path that the place names;
* **`Session.perform_render_backward`** — one of these places goes backwards.

## Design notes

A fault of rendering is blamed on a node of the composed template
(`render_blamed`), and that node has the place of one that is written in a template
which was loaded for it (`composePath_stems`).  The data has to be plain: the nodes
in values come from no template.
-/
import Stencil.Proofs.Blame
import Stencil.Proofs.Caching
import Stencil.Proofs.Places.Encoding
import Stencil.Proofs.Provenance

namespace Stencil

/-! ### Places in bytes -/

/-- Whether an error is the unexpected end of a parameter list. -/
def RenderError.isEnd : RenderError → Bool
  | .compose (.parse error) => error.fault.isEnd
  | _ => false

/-- The place of the error that is answered, if it has one. -/
def Answer.errorSpan? : Answer → Option Span
  | .text (.error error) => error.span?
  | _ => none

variable {sources : Sources} {given : ByteArray → String → Prop}

/-- A text fails to come about in composition or in rendering. -/
theorem Setting.finish_eq_error {setting : Setting} {composed : Except ComposeError (List Node)}
    {error : RenderError} (h : setting.finish composed = .error error) :
    (∃ cause, composed = .error cause ∧ error = .compose cause) ∨
      ∃ nodes fault, composed = .ok nodes ∧
        Stencil.render setting storedDepth nodes = .error fault ∧ error = .render fault := by
  cases composed with
  | error cause => exact .inl ⟨cause, rfl, (Except.error.inj h).symm⟩
  | ok nodes =>
    rw [finish] at h
    cases hrender : Stencil.render setting storedDepth nodes with
    | ok text =>
      rw [hrender] at h
      cases h
    | error fault =>
      rw [hrender] at h
      exact .inr ⟨nodes, fault, rfl, hrender, (Except.error.inj h).symm⟩

namespace Session

theorem tags_resolve (session : Session) (name : String) :
    (session.resolve name).2.tags = session.tags := by
  rcases session.resolve_cases name with ⟨_, _, -, -, hresolve⟩ | hresolve | ⟨_, _, -, -, hresolve⟩
  all_goals rw [hresolve]

theorem setting_isPlain {session : Session} (htags : session.tags = Builtin.registry)
    {context : Value} (hcontext : context.isPlain) : (session.setting context).IsPlain :=
  Setting.isPlain_of_builtin htags hcontext

end Session

end Stencil
