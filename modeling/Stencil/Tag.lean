/-
Tags.

A `TagHandler` answers the calls of a tag with a value.  A `Registry` holds the
handlers under the names of their tags, and no name is given twice.
-/
import Stencil.Storage
import Stencil.Text.Quoted

namespace Stencil

/-- What a handler sees of a call. -/
structure TagCall where
  name : String
  parameters : List Value
  /-- The rendered body, if there is one and the handler reads it. -/
  body : Option String
  /-- The root of the render context. -/
  data : Value
  storage : Storage

/-- What can be wrong with a tag. -/
inductive TagError where
  | duplicate (name : String)
  | arity (name : String) (expected found : Nat)
  | invalid (name message : String)
deriving DecidableEq

/-- The wording of an error. -/
def TagError.message : TagError → String
  | duplicate name => s!"tag '{name}' is already registered"
  | arity name expected found => s!"#{name} expects {expected} parameter(s), found {found}"
  | invalid name message => s!"#{name}: {message}"

namespace TagCall

/-- The error of a call with the wrong number of parameters. -/
def arity (call : TagCall) (expected : Nat) : TagError :=
  .arity call.name expected call.parameters.length

/-- The parameter of a call that takes one. -/
def one (call : TagCall) : Except TagError Value :=
  match call.parameters with
  | [value] => .ok value
  | _ => .error (call.arity 1)

/-- The parameters of a call that takes two. -/
def two (call : TagCall) : Except TagError (Value × Value) :=
  match call.parameters with
  | [first, second] => .ok (first, second)
  | _ => .error (call.arity 2)

/-- Refuse the parameters of a call that takes none. -/
def noParameters (call : TagCall) : Except TagError Unit :=
  match call.parameters with
  | [] => .ok ()
  | _ => .error (call.arity 0)

end TagCall

/-- What a tag does. -/
structure TagHandler where
  /-- Whether the body is rendered before the handler is asked. -/
  readsBody : Bool
  answer : TagCall → Except TagError Value

/-- Handlers under the names of their tags, the names in ascending order. -/
structure Registry where
  handlers : List (String × TagHandler)

namespace Registry

/-- A registry without tags. -/
def empty : Registry := ⟨[]⟩

/-- The handler of a tag. -/
def find? (registry : Registry) (name : String) : Option TagHandler :=
  Keyed.find? name registry.handlers

/-- Whether there is a tag of that name. -/
def contains (registry : Registry) (name : String) : Bool := (registry.find? name).isSome

/-- The names of the tags in ascending order. -/
def names (registry : Registry) : List String := registry.handlers.map Prod.fst

/-- Add a tag, unless there is one of that name. -/
def register (registry : Registry) (name : String) (handler : TagHandler) :
    Except TagError Registry :=
  if registry.contains name then .error (.duplicate name)
  else .ok ⟨Keyed.insert name handler registry.handlers⟩

/-- A listing of the registry. -/
def describe (registry : Registry) : String :=
  "TagRegistry \x7b tags: [" ++ ", ".intercalate (registry.names.map quote) ++ "] \x7d"

end Registry

end Stencil
