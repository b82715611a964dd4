/-
The syntax tree of a template.

A `Node` is a place where text is put out.  Nodes occur in sequences (a
template, a body) and in single places (a condition, an operand).  Two kinds
stand for content that is found elsewhere, and composition replaces them:
`imported` stands for an export that is visible there, and `extend` for
another template.

* **`Node.describe`** — the name of a node's kind in messages;
* **`Node.isComposition`** — whether the node itself is of these two kinds;
* **`Node.isResolved`** — whether none of them occurs in it at any depth.

## Design notes

A chain of conditions is the list of its branches, the last of which has a
constant condition if the chain ends in an else.  Exports are kept in the order
of their names.  A node of the host program is known by its handle, so that two
of them can be told apart even if they have the same name.
-/
import Stencil.Operator
import Stencil.Text.Position

namespace Stencil

/-- A constant of the template language. -/
inductive Literal where
  | int (value : Int64)
  | double (value : Float)
  | text (value : String)
  | truth (value : Bool)

/-- A node that the host program provides: what it does is known to the host. -/
structure HostNode where
  handle : Nat
  name : String
deriving DecidableEq

/-- A node of a template, with the place from which it was read. -/
inductive Node where
  /-- Text that is put out as it stands. -/
  | raw (span : Span) (text : String)
  /-- A call of a tag, with a body if it has one. -/
  | tag (span : Span) (name : String) (parameters : List Node) (body : Option (List Node))
  /-- The template that an expression names. -/
  | embed (span : Span) (path : Node)
  /-- The export of that name. -/
  | imported (span : Span) (name : String)
  /-- The content of another template, to which exports are handed. -/
  | extend (span : Span) (path : String) (exports : List (String × List Node))
  /-- The body of the first branch whose condition holds. -/
  | conditional (span : Span) (branches : List (Node × List Node))
  /-- A variable, and the keys that lead into it. -/
  | path (span : Span) (keys : List String)
  | literal (span : Span) (value : Literal)
  /-- Several nodes in a single place, put out back to back. -/
  | joined (span : Span) (parts : List Node)
  /-- The body once for each item of the data, with the key naming the item. -/
  | loop (span : Span) (key data : Node) (body : List Node)
  | binary (span : Span) (op : Operator) (left right : Node)
  /-- An operator in front of its operand. -/
  | signed (span : Span) (op : Operator) (operand : Node)
  /-- An operator behind its operand. -/
  | suffixed (span : Span) (op : Operator) (operand : Node)
  | host (span : Span) (node : HostNode)

instance : Inhabited Node := ⟨.raw default ""⟩

namespace Node

/-- The place from which a node was read. -/
def span : Node → Span
  | raw s _ | tag s _ _ _ | embed s _ | imported s _ | extend s _ _ | conditional s _
  | path s _ | literal s _ | joined s _ | loop s _ _ _ | binary s _ _ _ | signed s _ _
  | suffixed s _ _ | host s _ => s

/-- The name of a node's kind in messages. -/
def describe : Node → String
  | raw .. => "raw text"
  | tag .. => "tag"
  | embed .. => "embed"
  | imported .. => "import"
  | extend .. => "extend"
  | conditional .. => "conditional"
  | path .. => "identifier"
  | literal .. | joined .. => "constant"
  | loop .. => "loop"
  | binary .. | signed .. | suffixed .. => "expression"
  | host .. => "custom node"

/-- Whether composition replaces the node. -/
def isComposition : Node → Bool
  | imported .. | extend .. => true
  | _ => false

mutual

/-- Whether no node that composition replaces occurs in a node. -/
def isResolved : Node → Bool
  | raw .. | path .. | literal .. | host .. => true
  | imported .. | extend .. => false
  | tag _ _ parameters none => allResolved parameters
  | tag _ _ parameters (some body) => allResolved parameters && allResolved body
  | embed _ target => target.isResolved
  | conditional _ branches => branchesResolved branches
  | joined _ parts => allResolved parts
  | loop _ key data body => key.isResolved && data.isResolved && allResolved body
  | binary _ _ left right => left.isResolved && right.isResolved
  | signed _ _ operand | suffixed _ _ operand => operand.isResolved

/-- `isResolved` for every node of a sequence. -/
def allResolved : List Node → Bool
  | [] => true
  | node :: nodes => node.isResolved && allResolved nodes

/-- `isResolved` for the conditions and bodies of a chain. -/
def branchesResolved : List (Node × List Node) → Bool
  | [] => true
  | (condition, body) :: branches =>
    condition.isResolved && allResolved body && branchesResolved branches

end

theorem allResolved_iff (nodes : List Node) :
    allResolved nodes ↔ ∀ node ∈ nodes, node.isResolved := by
  induction nodes with
  | nil => simp [allResolved]
  | cons node nodes ih => simp [allResolved, ih]

end Node

end Stencil
