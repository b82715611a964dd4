/-
A store of templates.

A `Library` holds the bytes of templates under paths, and finds a template under
any path with the same components.  Some paths can be made to fail.

* **`Library.depth`** — how deep extends of these templates can be nested.

## Design notes

Each template on a chain of extends but the first is there because an extend
names it, and no path is on a chain twice.  So a chain is no longer than the
number of different paths that extends name, and one more extend either leads
back into the chain or cannot exist.

`Library.put`, `Library.delete` and `Library.fault` are the moves of a store that
changes while it is used, and each of them is about one spelling of a path.  A
store in memory that is keyed by components replaces the template under every
spelling of a path at once: for these moves that is to delete the other spellings
and to put the template.
-/
import Stencil.Composition

namespace Stencil

namespace Node

mutual

/-- The names of the templates that a node extends, at any depth. -/
def extended : Node → List String
  | raw .. | Node.path .. | literal .. | host .. | imported .. => []
  | .extend _ name exports => extendedInExports exports ++ [name]
  | tag _ _ parameters none => extendedInAll parameters
  | tag _ _ parameters (some body) => extendedInAll parameters ++ extendedInAll body
  | embed _ target => target.extended
  | conditional _ branches => extendedInBranches branches
  | joined _ parts => extendedInAll parts
  | loop _ key data body => key.extended ++ data.extended ++ extendedInAll body
  | binary _ _ left right => left.extended ++ right.extended
  | signed _ _ operand | suffixed _ _ operand => operand.extended

/-- `extended` for the nodes of a sequence. -/
def extendedInAll : List Node → List String
  | [] => []
  | node :: nodes => node.extended ++ extendedInAll nodes

/-- `extended` for the branches of a chain. -/
def extendedInBranches : List (Node × List Node) → List String
  | [] => []
  | (condition, body) :: branches =>
    condition.extended ++ extendedInAll body ++ extendedInBranches branches

/-- `extended` for the values of exports. -/
def extendedInExports : List (String × List Node) → List String
  | [] => []
  | (_, value) :: exports => extendedInAll value ++ extendedInExports exports

end

end Node

/-- Templates under paths, the paths in ascending order, and paths that fail. -/
structure Library where
  templates : List (String × ByteArray)
  faults : List (String × LoadError)

namespace Library

/-- A library without templates. -/
def empty : Library := ⟨[], []⟩

/-- A library of templates under paths. -/
def ofList (templates : List (String × ByteArray)) : Library :=
  ⟨Keyed.ofList templates, []⟩

/-- The template under a path.  Of several with the same components the one
whose path is last in order is taken. -/
def find? (library : Library) (path : String) : Option ByteArray :=
  ((library.templates.filter fun entry => Path.same entry.1 path).getLast?).map Prod.snd

/-- Load the template under a path, unless the path is made to fail. -/
def load (library : Library) (path : String) : Except LoadError ByteArray :=
  match Keyed.find? path library.faults with
  | some error => .error error
  | none =>
    match library.find? path with
    | some bytes => .ok bytes
    | none => .error .missing

/-- The store changes: a template is put under a path of exactly that spelling, which
does not fail from now on.  Templates under other spellings of the path stay, and
`Library.find?` chooses among them. -/
def put (library : Library) (path : String) (bytes : ByteArray) : Library :=
  ⟨Keyed.insert path bytes library.templates, Keyed.erase path library.faults⟩

/-- The store changes: the template under a path of exactly that spelling is removed.
Templates under other spellings of the path stay. -/
def delete (library : Library) (path : String) : Library :=
  { library with templates := Keyed.erase path library.templates }

/-- The store changes: the loads of a path of exactly that spelling fail from now on. -/
def fault (library : Library) (path : String) (error : LoadError) : Library :=
  { library with faults := Keyed.insert path error library.faults }

/-- The library as a source of templates. -/
def sources (library : Library) (rule : PathRule) : Sources :=
  { load := library.load, parse := parseBytes, rule }

/-- The paths that extends of the stored templates and of some nodes name. -/
def extendedPaths (library : Library) (rule : PathRule) (nodes : List Node) : List String :=
  let stored := library.templates.flatMap fun entry =>
    match parseBytes entry.2 entry.1 with
    | .ok nodes => Node.extendedInAll nodes
    | .error _ => []
  ((Node.extendedInAll nodes ++ stored).map rule.normalize).eraseDups

/-- How deep extends can be nested, starting from some nodes. -/
def depth (library : Library) (rule : PathRule) (nodes : List Node) : Nat :=
  (library.extendedPaths rule nodes).length + 1

end Library

end Stencil
