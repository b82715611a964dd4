/-
Composition of templates.

`compose` replaces every import by the export of that name, and every extend by
the content of the template it names, until none of them is left.

The exports of an extend are seen by the template it names, and by the
templates that this one extends, unless they declare an export of the same name
themselves.  The value of an export is composed where it is written, so it sees
what is visible there and not its siblings.

## Design notes

Replacing happens in sequences: an import or an extend may give any number of
nodes.  In a place that takes one node, several are joined, and none is an error
(`collapse`).

`composeNode` follows the tree.  What an extend is replaced by does not come
from the tree, so it is left to a function `visit`; `visitWithin` is that
function.  It refuses a template that is being composed already, and it counts
down from a limit, because nothing but the templates themselves bounds how deep
extends are nested.  `Library.depth` is a limit that suffices.
-/
import Stencil.Composition.Traced
import Stencil.Keyed

namespace Stencil

/-- The exports that are visible, the innermost first, each fully composed. -/
abbrev Scope := List (String × List Node)

/-- What an extend is replaced by, given its place, the name of the template and
the exports visible in it. -/
abbrev Visit := Span → String → Scope → Traced (List Node)

/-- The one node that a sequence makes in a place that takes one. -/
def collapse (span : Span) : List Node → Traced Node
  | [] => .fail (.emptyResult span)
  | [node] => pure node
  | nodes => pure (.joined span nodes)

/-- What an import is replaced by. -/
def importedNodes (scope : Scope) (span : Span) (name : String) : Traced (List Node) :=
  match Keyed.find? name scope with
  | some nodes => pure nodes
  | none => .fail (.noSuchExport name span)

mutual

/-- What a node is replaced by. -/
def composeNode (visit : Visit) (scope : Scope) : Node → Traced (List Node)
  | .imported span name => importedNodes scope span name
  | .extend span path exports => do
    let declared ← composeExports visit scope exports
    visit span path (declared ++ scope)
  | .tag span name parameters none => do
    let parameters ← composeEach visit scope parameters
    return [.tag span name parameters none]
  | .tag span name parameters (some body) => do
    let parameters ← composeEach visit scope parameters
    let body ← composeAll visit scope body
    return [.tag span name parameters (some body)]
  | .embed span target => do
    let target ← collapse target.span (← composeNode visit scope target)
    return [.embed span target]
  | .conditional span branches => do
    let branches ← composeBranches visit scope branches
    return [.conditional span branches]
  | .joined span parts => do
    let parts ← composeAll visit scope parts
    return [.joined span parts]
  | .loop span key data body => do
    let key ← collapse key.span (← composeNode visit scope key)
    let data ← collapse data.span (← composeNode visit scope data)
    let body ← composeAll visit scope body
    return [.loop span key data body]
  | .binary span op left right => do
    let left ← collapse left.span (← composeNode visit scope left)
    let right ← collapse right.span (← composeNode visit scope right)
    return [.binary span op left right]
  | .signed span op operand => do
    let operand ← collapse operand.span (← composeNode visit scope operand)
    return [.signed span op operand]
  | .suffixed span op operand => do
    let operand ← collapse operand.span (← composeNode visit scope operand)
    return [.suffixed span op operand]
  | .raw span text => return [.raw span text]
  | .path span keys => return [.path span keys]
  | .literal span value => return [.literal span value]
  | .host span node => return [.host span node]

/-- What a sequence is replaced by: what its nodes are, one after the other. -/
def composeAll (visit : Visit) (scope : Scope) : List Node → Traced (List Node)
  | [] => return []
  | node :: nodes => do
    let first ← composeNode visit scope node
    let rest ← composeAll visit scope nodes
    return first ++ rest

/-- The nodes that stand in places that take one each. -/
def composeEach (visit : Visit) (scope : Scope) : List Node → Traced (List Node)
  | [] => return []
  | node :: nodes => do
    let first ← collapse node.span (← composeNode visit scope node)
    let rest ← composeEach visit scope nodes
    return first :: rest

/-- The branches of a chain. -/
def composeBranches (visit : Visit) (scope : Scope) :
    List (Node × List Node) → Traced (List (Node × List Node))
  | [] => return []
  | (condition, body) :: branches => do
    let condition ← collapse condition.span (← composeNode visit scope condition)
    let body ← composeAll visit scope body
    let rest ← composeBranches visit scope branches
    return (condition, body) :: rest

/-- The exports that an extend declares. -/
def composeExports (visit : Visit) (scope : Scope) :
    List (String × List Node) → Traced Scope
  | [] => return []
  | (name, value) :: exports => do
    let value ← composeAll visit scope value
    let rest ← composeExports visit scope exports
    return (name, value) :: rest

end

/-- Compose a template that is extended, with extends nested at most so deep in
it.  `chain` holds the paths of the templates that are being composed, the
outermost first. -/
def visitWithin (sources : Sources) : Nat → List String → Visit
  | 0, _, span, _, _ => .fail (.tooDeep span)
  | depth + 1, chain, span, name, scope => do
    let path := sources.rule.normalize name
    if path ∈ chain then
      .fail (.circular (chain ++ [path]) span)
    else
      let bytes ← sources.fetch path (some span)
      let nodes ← sources.read bytes path
      composeAll (visitWithin sources depth (chain ++ [path])) scope nodes

/-- Compose the nodes of a template.  `origin` is its path, if it has one. -/
def compose (sources : Sources) (depth : Nat) (origin : Option String) (nodes : List Node) :
    Traced (List Node) :=
  composeAll (visitWithin sources depth origin.toList) [] nodes

/-- Load, parse and compose the template at a path. -/
def composePath (sources : Sources) (depth : List Node → Nat) (path : String) :
    Traced (List Node) := do
  let bytes ← sources.fetch path none
  let nodes ← sources.read bytes path
  compose sources (depth nodes) (some path) nodes

/-- Parse and compose bytes that have a label but no path. -/
def composeInline (sources : Sources) (depth : List Node → Nat) (bytes : ByteArray)
    (label : String) : Traced (List Node) := do
  let nodes ← sources.read bytes label
  compose sources (depth nodes) none nodes

end Stencil
