/-
Nodes within nodes.

`Node.children` lists the nodes that stand directly in a node, in whatever
place, and `Node.Occurs` is standing in it at any depth.

* **`Node.children_induction`** — what holds of a node as soon as it holds of
  its children holds of all nodes;
* **`Node.Throughout`** — a property of all nodes that occur in a node;
* **`Node.allResolved_iff_occurs`** — a sequence is resolved exactly if no node
  that composition replaces occurs in it;
* **`Node.mem_extended_iff_occurs`** — `Node.extended` lists the names of the
  extends that occur in a node.

## Design notes

The functions on nodes recurse over sequences, branches and exports as well.
Each of them is described here once by what it does with the children, so that
proofs about nodes are inductions over children with one case for each kind.
-/
import Stencil.Library

namespace Stencil.Node

/-- The nodes that stand directly in a node. -/
def children : Node → List Node
  | raw .. | Node.path .. | literal .. | host .. | imported .. => []
  | .extend _ _ exports => exports.flatMap Prod.snd
  | tag _ _ parameters body => parameters ++ body.getD []
  | embed _ target => [target]
  | conditional _ branches => branches.flatMap fun branch => branch.1 :: branch.2
  | joined _ parts => parts
  | loop _ key data body => key :: data :: body
  | binary _ _ left right => [left, right]
  | signed _ _ operand | suffixed _ _ operand => [operand]

/-- Whether a node stands in another, or is that node. -/
inductive Occurs (node : Node) : Node → Prop
  | self : Occurs node node
  | within {child parent : Node} : child ∈ parent.children → Occurs node child →
      Occurs node parent

/-- Whether a node stands in a sequence at any depth. -/
def OccursIn (node : Node) (nodes : List Node) : Prop := ∃ top ∈ nodes, Occurs node top

/-- A property of a node and of every node in it, at any depth. -/
def Throughout (P : Node → Prop) (node : Node) : Prop := ∀ inner, Occurs inner node → P inner

theorem sizeOf_lt_of_mem_children {child node : Node} (h : child ∈ node.children) :
    sizeOf child < sizeOf node := by
  cases node with
  | raw | path | literal | host | imported => exact absurd h (by simp [children])
  | extend span path exports =>
    -- A node is smaller than its sequence, and the sequence than its entry.
    obtain ⟨entry, hentry, hchild⟩ := List.mem_flatMap.1 h
    have h₁ := List.sizeOf_lt_of_mem hentry
    have h₂ := List.sizeOf_lt_of_mem hchild
    have h₃ : sizeOf entry = 1 + sizeOf entry.1 + sizeOf entry.2 := rfl
    simp only [extend.sizeOf_spec]
    omega
  | tag span name parameters body =>
    rcases List.mem_append.1 h with hparameter | hbody
    · have := List.sizeOf_lt_of_mem hparameter
      simp only [tag.sizeOf_spec]
      omega
    · cases body with
      | none => exact absurd hbody (by simp)
      | some nodes =>
        have := List.sizeOf_lt_of_mem (show child ∈ nodes from hbody)
        simp only [tag.sizeOf_spec, Option.some.sizeOf_spec]
        omega
  | conditional span branches =>
    obtain ⟨branch, hbranch, hchild⟩ := List.mem_flatMap.1 h
    have h₁ := List.sizeOf_lt_of_mem hbranch
    have h₃ : sizeOf branch = 1 + sizeOf branch.1 + sizeOf branch.2 := rfl
    simp only [conditional.sizeOf_spec]
    rcases List.mem_cons.1 hchild with rfl | hbody
    · omega
    · have h₂ := List.sizeOf_lt_of_mem hbody
      omega
  | joined span parts =>
    have := List.sizeOf_lt_of_mem (show child ∈ parts from h)
    simp only [joined.sizeOf_spec]
    omega
  | loop span key data body =>
    simp only [loop.sizeOf_spec]
    rcases List.mem_cons.1 h with rfl | h
    · omega
    · rcases List.mem_cons.1 h with rfl | h
      · omega
      · have := List.sizeOf_lt_of_mem h
        omega
  | embed | binary | signed | suffixed =>
    simp only [children, List.mem_cons, List.not_mem_nil, or_false] at h
    rcases h with rfl | rfl
    all_goals
      simp only [embed.sizeOf_spec, binary.sizeOf_spec, signed.sizeOf_spec, suffixed.sizeOf_spec]
      omega

/-- Induction over the children of nodes. -/
theorem children_induction {P : Node → Prop}
    (h : ∀ node : Node, (∀ child ∈ node.children, P child) → P node) (node : Node) : P node :=
  h node fun child hchild =>
    have := sizeOf_lt_of_mem_children hchild
    children_induction h child
termination_by sizeOf node

/-! ### Properties at any depth -/

section Throughout

variable {P : Node → Prop} {node : Node}

theorem Throughout.self (h : node.Throughout P) : P node := h node .self

theorem Throughout.child (h : node.Throughout P) {child : Node} (hchild : child ∈ node.children) :
    child.Throughout P :=
  fun inner hinner => h inner (.within hchild hinner)

theorem Throughout.of_children (hself : P node)
    (h : ∀ child ∈ node.children, child.Throughout P) : node.Throughout P := by
  intro inner hinner
  cases hinner with
  | self => exact hself
  | within hchild hinner => exact h _ hchild inner hinner

/-- A property of all nodes of a sequence, at any depth. -/
theorem throughout_iff_occursIn {nodes : List Node} :
    (∀ node ∈ nodes, node.Throughout P) ↔ ∀ node, OccursIn node nodes → P node := by
  constructor
  · rintro h node ⟨top, htop, hnode⟩
    exact h top htop node hnode
  · intro h top htop node hnode
    exact h node ⟨top, htop, hnode⟩

end Throughout

/-! ### Resolved nodes -/

theorem branchesResolved_iff (branches : List (Node × List Node)) :
    branchesResolved branches ↔
      ∀ child ∈ branches.flatMap fun branch => branch.1 :: branch.2, child.isResolved := by
  induction branches with
  | nil => simp [branchesResolved]
  | cons branch branches ih =>
    obtain ⟨condition, body⟩ := branch
    simp [branchesResolved, ih, allResolved_iff, or_imp, forall_and, and_assoc]

/-- A node is resolved if it is not replaced and its children are resolved. -/
theorem isResolved_iff (node : Node) :
    node.isResolved ↔
      node.isComposition = false ∧ ∀ child ∈ node.children, child.isResolved := by
  cases node with
  | tag span name parameters body =>
    cases body <;> simp [isResolved, isComposition, children, allResolved_iff, or_imp, forall_and]
  | conditional span branches =>
    rw [isResolved, branchesResolved_iff]
    simp only [isComposition, children, true_and]
  | _ => simp [isResolved, isComposition, children, allResolved_iff, and_assoc]

/-- A node is resolved if nothing that is replaced occurs in it. -/
theorem isResolved_iff_occurs (top : Node) :
    top.isResolved ↔ ∀ node : Node, Occurs node top → node.isComposition = false := by
  constructor
  · intro h node hnode
    induction hnode with
    | self => exact ((isResolved_iff node).1 h).1
    | within hchild _ ih => exact ih (((isResolved_iff _).1 h).2 _ hchild)
  · induction top using children_induction with
    | h top ih =>
      intro h
      refine (isResolved_iff top).2 ⟨h top .self, fun child hchild => ih child hchild ?_⟩
      intro node hnode
      exact h node (.within hchild hnode)

/-- A sequence is resolved if nothing that is replaced occurs in it. -/
theorem allResolved_iff_occurs (nodes : List Node) :
    allResolved nodes ↔ ∀ node : Node, OccursIn node nodes → node.isComposition = false := by
  rw [allResolved_iff]
  constructor
  · rintro h node ⟨top, htop, hnode⟩
    exact (isResolved_iff_occurs top).1 (h top htop) node hnode
  · intro h top htop
    exact (isResolved_iff_occurs top).2 fun node hnode => h node ⟨top, htop, hnode⟩

/-! ### Extends -/

theorem mem_extendedInAll_iff {name : String} (nodes : List Node) :
    name ∈ extendedInAll nodes ↔ ∃ node ∈ nodes, name ∈ node.extended := by
  induction nodes with
  | nil => simp [extendedInAll]
  | cons node nodes ih => simp [extendedInAll, ih]

theorem mem_extendedInBranches_iff {name : String} (branches : List (Node × List Node)) :
    name ∈ extendedInBranches branches ↔
      ∃ node ∈ branches.flatMap fun branch => branch.1 :: branch.2, name ∈ node.extended := by
  induction branches with
  | nil => simp [extendedInBranches]
  | cons branch branches ih =>
    obtain ⟨condition, body⟩ := branch
    simp [extendedInBranches, ih, mem_extendedInAll_iff, or_and_right, exists_or]

theorem mem_extendedInExports_iff {name : String} (exports : List (String × List Node)) :
    name ∈ extendedInExports exports ↔
      ∃ node ∈ exports.flatMap Prod.snd, name ∈ node.extended := by
  induction exports with
  | nil => simp [extendedInExports]
  | cons entry exports ih =>
    obtain ⟨key, value⟩ := entry
    simp [extendedInExports, ih, mem_extendedInAll_iff, or_and_right, exists_or]

/-- A name is extended in a node if the node extends it or a child does. -/
theorem mem_extended_iff {name : String} (node : Node) :
    name ∈ node.extended ↔
      (∃ span exports, node = .extend span name exports) ∨
        ∃ child ∈ node.children, name ∈ child.extended := by
  cases node with
  | tag span key parameters body =>
    cases body <;> simp [extended, children, mem_extendedInAll_iff, or_and_right, exists_or]
  | extend span path exports =>
    simp only [extended, children, List.mem_append, mem_extendedInExports_iff, List.mem_singleton,
      extend.injEq]
    constructor
    · rintro (h | rfl)
      · exact .inr h
      · exact .inl ⟨span, exports, rfl, rfl, rfl⟩
    · rintro (⟨_, _, _, rfl, _⟩ | h)
      · exact .inr rfl
      · exact .inl h
  | _ =>
    simp [extended, children, mem_extendedInAll_iff, mem_extendedInBranches_iff]

/-- A name is extended in a node if an extend of that name occurs in it. -/
theorem mem_extended_iff_occurs {name : String} (top : Node) :
    name ∈ top.extended ↔ ∃ span exports, Occurs (.extend span name exports) top := by
  constructor
  · induction top using children_induction with
    | h top ih =>
      intro h
      rcases (mem_extended_iff top).1 h with ⟨span, exports, rfl⟩ | ⟨child, hchild, hname⟩
      · exact ⟨span, exports, .self⟩
      · obtain ⟨span, exports, hoccurs⟩ := ih child hchild hname
        exact ⟨span, exports, .within hchild hoccurs⟩
  · rintro ⟨span, exports, h⟩
    -- The extend is made a variable, since the induction is on where it occurs.
    generalize hn : Node.extend span name exports = node at h
    induction h with
    | self => exact (mem_extended_iff _).2 (.inl ⟨span, exports, hn.symm⟩)
    | within hchild _ ih => exact (mem_extended_iff _).2 (.inr ⟨_, hchild, ih⟩)

/-- A name is extended in a sequence if an extend of that name occurs in it. -/
theorem mem_extendedInAll_iff_occurs {name : String} (nodes : List Node) :
    name ∈ extendedInAll nodes ↔ ∃ span exports, OccursIn (.extend span name exports) nodes := by
  rw [mem_extendedInAll_iff]
  constructor
  · rintro ⟨top, htop, h⟩
    obtain ⟨span, exports, hoccurs⟩ := (mem_extended_iff_occurs top).1 h
    exact ⟨span, exports, top, htop, hoccurs⟩
  · rintro ⟨span, exports, top, htop, hoccurs⟩
    exact ⟨top, htop, (mem_extended_iff_occurs top).2 ⟨span, exports, hoccurs⟩⟩

end Stencil.Node
