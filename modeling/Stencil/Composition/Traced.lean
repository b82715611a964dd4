/-
Computations that consult other templates.

A `Traced` computation has a result, which can be an error, and the list of its
accesses: which templates it loaded and parsed, in order.  The accesses of a
computation that fails are those up to its failure.

* **`Traced.bind_assoc`**, **`Traced.pure_bind`**, **`Traced.bind_pure`** — the
  computations form a monad.
-/
import Stencil.Document
import Stencil.Path

namespace Stencil

/-- Why the bytes of a template could not be had. -/
inductive LoadError where
  | missing
  | unreadable (message : String)
deriving DecidableEq

/-- Why a template could not be composed. -/
inductive ComposeError where
  | fileNotFound (path : String) (span : Option Span)
  | unreadable (path message : String)
  | noSuchExport (name : String) (span : Span)
  /-- Nothing came of a node in a place that takes exactly one. -/
  | emptyResult (span : Span)
  /-- A template extends one that is being composed; the paths lead there. -/
  | circular (chain : List String) (span : Span)
  | parse (error : ParseError)
  /-- Extends are nested deeper than composition goes. -/
  | tooDeep (span : Span)

namespace ComposeError

/-- A name of the cause that does not change with its wording. -/
def identifier : ComposeError → String
  | fileNotFound .. => "file_not_found"
  | unreadable .. => "io"
  | noSuchExport .. => "no_such_export"
  | emptyResult .. => "empty_resolution_result"
  | circular .. => "circular_extend"
  | parse .. => "parse_error"
  | tooDeep .. => "extend_depth"

/-- The error without its place. -/
def reason : ComposeError → String
  | fileNotFound path _ => s!"template not found: {path}"
  | unreadable path message => s!"error reading template {path}: {message}"
  | noSuchExport name _ => s!"no export named '{name}' is visible here"
  | emptyResult _ => "resolved to no nodes where exactly one is required"
  | circular chain _ => "circular extend: " ++ " -> ".intercalate chain
  | parse error => error.message
  | tooDeep _ => "extends are nested too deeply"

/-- The place of the error, if it has one. -/
def span? : ComposeError → Option Span
  | fileNotFound _ span => span
  | unreadable .. => none
  | noSuchExport _ span | emptyResult span | circular _ span | tooDeep span => some span
  | parse error => some error.span

/-- The error as it is shown, with its place where that is part of it. -/
def display : ComposeError → String
  | error@(noSuchExport _ span) | error@(emptyResult span) | error@(circular _ span)
  | error@(tooDeep span) => span.cite ++ ": " ++ error.reason
  | parse error => "parse error: " ++ error.display
  | error => error.reason

end ComposeError

/-- What a computation asked for. -/
inductive Access where
  | load (path : String)
  | parse (label : String)
deriving DecidableEq

/-- A result and the accesses that led to it. -/
structure Traced (α : Type) where
  result : Except ComposeError α
  accesses : List Access

namespace Traced

variable {α β γ : Type}

/-- A result without accesses. -/
def pure (a : α) : Traced α := ⟨.ok a, []⟩

/-- A failure without accesses. -/
def fail (error : ComposeError) : Traced α := ⟨.error error, []⟩

/-- Go on with the result of a computation. -/
def bind (x : Traced α) (f : α → Traced β) : Traced β :=
  match x.result with
  | .error error => ⟨.error error, x.accesses⟩
  | .ok a => ⟨(f a).result, x.accesses ++ (f a).accesses⟩

instance : Monad Traced where
  pure := pure
  bind := bind

theorem pure_bind (a : α) (f : α → Traced β) : bind (pure a) f = f a := rfl

theorem bind_pure (x : Traced α) : bind x pure = x := by
  obtain ⟨result, accesses⟩ := x
  cases result <;> simp [bind, pure]

theorem bind_assoc (x : Traced α) (f : α → Traced β) (g : β → Traced γ) :
    bind (bind x f) g = bind x fun a => bind (f a) g := by
  obtain ⟨result, accesses⟩ := x
  cases result with
  | error error => rfl
  | ok a =>
    simp only [bind]
    cases (f a).result <;> simp

/-- A computation succeeds exactly if both of its steps do. -/
theorem bind_result_eq_ok_iff {x : Traced α} {f : α → Traced β} {b : β} :
    (bind x f).result = .ok b ↔ ∃ a, x.result = .ok a ∧ (f a).result = .ok b := by
  unfold bind
  cases x.result <;> simp

end Traced

/-- Where templates come from: how bytes are found under a path, how they are
read, and how names become paths. -/
structure Sources where
  load : String → Except LoadError ByteArray
  parse : ByteArray → String → Except ParseError (List Node)
  rule : PathRule

namespace Sources

/-- Load a template.  A missing one is blamed on the node at `span`, if any. -/
def fetch (sources : Sources) (path : String) (span : Option Span) : Traced ByteArray :=
  let result := match sources.load path with
    | .ok bytes => .ok bytes
    | .error .missing => .error (.fileNotFound path span)
    | .error (.unreadable message) => .error (.unreadable path message)
  ⟨result, [.load path]⟩

/-- Parse a template under a label. -/
def read (sources : Sources) (bytes : ByteArray) (label : String) : Traced (List Node) :=
  ⟨(sources.parse bytes label).mapError .parse, [.parse label]⟩

end Sources

end Stencil
