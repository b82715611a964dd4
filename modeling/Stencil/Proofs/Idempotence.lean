/-
Composed templates stay as they are.

A template that neither imports nor extends anything is rebuilt node by node, and
what comes out is the template itself.  No other template is asked for.

* **`composeNode_unchanged`** — the node that is rebuilt is the node itself;
* **`compose_unchanged`** — so it is for templates, and composing what has been
  composed changes nothing.

## Design notes

A place that takes one node gets exactly one from a node that is not replaced,
so nothing is joined there and nothing is missing.
-/
import Stencil.Proofs.Resolution

namespace Stencil

variable {visit : Visit} {scope : Scope}

/-- Composition gives a node back, and consults no other template. -/
def Unchanged (visit : Visit) (scope : Scope) (node : Node) : Prop :=
  composeNode visit scope node = ⟨.ok [node], []⟩

/-- One node in a place that takes one. -/
theorem Unchanged.single {α : Type} {node : Node} (h : Unchanged visit scope node)
    (g : Node → Traced α) :
    (composeNode visit scope node >>= fun nodes => collapse node.span nodes >>= g) = g node := by
  rw [h]
  exact Traced.pure_bind node g

theorem composeAll_unchanged {nodes : List Node} (h : ∀ node ∈ nodes, Unchanged visit scope node) :
    composeAll visit scope nodes = ⟨.ok nodes, []⟩ := by
  induction nodes with
  | nil => rfl
  | cons node nodes ih =>
    obtain ⟨hnode, hnodes⟩ := List.forall_mem_cons.1 h
    rw [composeAll, hnode, ih hnodes]
    rfl

theorem composeEach_unchanged {nodes : List Node}
    (h : ∀ node ∈ nodes, Unchanged visit scope node) :
    composeEach visit scope nodes = ⟨.ok nodes, []⟩ := by
  induction nodes with
  | nil => rfl
  | cons node nodes ih =>
    obtain ⟨hnode, hnodes⟩ := List.forall_mem_cons.1 h
    rw [composeEach, hnode.single, ih hnodes]
    rfl

theorem composeBranches_unchanged {branches : List (Node × List Node)}
    (h : ∀ node ∈ branches.flatMap fun branch => branch.1 :: branch.2,
      Unchanged visit scope node) :
    composeBranches visit scope branches = ⟨.ok branches, []⟩ := by
  induction branches with
  | nil => rfl
  | cons branch branches ih =>
    obtain ⟨condition, body⟩ := branch
    rw [List.flatMap_cons, List.forall_mem_append, List.forall_mem_cons] at h
    obtain ⟨⟨hcondition, hbody⟩, hbranches⟩ := h
    rw [composeBranches, hcondition.single, composeAll_unchanged hbody, ih hbranches]
    rfl

/-- **A node in which nothing is replaced is rebuilt as it is**, whatever is visible there. -/
theorem composeNode_unchanged (node : Node) (h : node.isResolved) :
    Unchanged visit scope node := by
  induction node using Node.children_induction with
  | h node ih =>
    obtain ⟨hself, hresolved⟩ := (Node.isResolved_iff node).1 h
    have hchildren : ∀ child ∈ node.children, Unchanged visit scope child := by
      intro child hchild
      exact ih child hchild (hresolved child hchild)
    clear ih h hresolved
    show composeNode visit scope node = _
    cases node with
    | imported | extend => exact absurd hself (by simp [Node.isComposition])
    | raw | path | literal | host => rfl
    | tag span name parameters body =>
      obtain ⟨hparameters, hbody⟩ := List.forall_mem_append.1 hchildren
      cases body with
      | none =>
        rw [composeNode, composeEach_unchanged hparameters]
        rfl
      | some nodes =>
        have hnodes : composeAll visit scope nodes = ⟨.ok nodes, []⟩ := composeAll_unchanged hbody
        rw [composeNode, composeEach_unchanged hparameters, hnodes]
        rfl
    | conditional span branches =>
      rw [composeNode, composeBranches_unchanged hchildren]
      rfl
    | joined span parts =>
      have hparts : composeAll visit scope parts = ⟨.ok parts, []⟩ :=
        composeAll_unchanged hchildren
      rw [composeNode, hparts]
      rfl
    | loop span key data body =>
      obtain ⟨hkey, hrest⟩ := List.forall_mem_cons.1 hchildren
      obtain ⟨hdata, hbody⟩ := List.forall_mem_cons.1 hrest
      rw [composeNode, hkey.single, hdata.single, composeAll_unchanged hbody]
      rfl
    | binary span op left right =>
      have hleft : Unchanged visit scope left := hchildren left (by simp [Node.children])
      have hright : Unchanged visit scope right := hchildren right (by simp [Node.children])
      rw [composeNode, hleft.single, hright.single]
      rfl
    | embed span operand | signed span op operand | suffixed span op operand =>
      have hoperand : Unchanged visit scope operand :=
        hchildren operand (by simp [Node.children])
      rw [composeNode, hoperand.single]
      rfl

/-- Resolved nodes are composed without a look at other templates. -/
theorem compose_of_allResolved {sources : Sources} {limit : Nat} {origin : Option String}
    {nodes : List Node} (h : ∀ node ∈ nodes, node.isResolved) :
    compose sources limit origin nodes = ⟨.ok nodes, []⟩ :=
  composeAll_unchanged fun node hnode => composeNode_unchanged node (h node hnode)

/-- **Composition is the identity on templates without imports and extends**: it gives the
same nodes at the same places and neither loads nor parses a template.  So what a composition
gives is not changed by another one, whatever the two know of other templates. -/
theorem compose_unchanged (sources : Sources) (limit : Nat) (origin : Option String)
    (nodes : List Node) :
    (Node.CompositionFree nodes → compose sources limit origin nodes = ⟨.ok nodes, []⟩) ∧
    ∀ (sources' : Sources) (limit' : Nat) (origin' : Option String) (input : List Node),
      (compose sources' limit' origin' input).result = .ok nodes →
        compose sources limit origin nodes = ⟨.ok nodes, []⟩ := by
  constructor
  · intro h
    have hresolved : Node.allResolved nodes := (Node.allResolved_iff_compositionFree nodes).2 h
    exact compose_of_allResolved ((Node.allResolved_iff nodes).1 hresolved)
  · intro sources' limit' origin' input h
    exact compose_of_allResolved
      (composeAll_resolved (visitWithin_resolves _ _ _) (by simp [Scope.Resolved]) h)

/-- An operator behind its operand, a node of the host and sequences of no, one and two nodes
in places that take one; and a template that imports two of them. -/
theorem compose_unchanged_joined :
    let at' (start : Nat) : Span := ⟨"t", 1, 1, start, start + 1⟩
    let sources : Sources :=
      { load := fun _ => .error .missing
        parse := fun _ _ => .ok []
        rule := ⟨"", ""⟩ }
    let parts : List Node := [.host (at' 0) ⟨0, "h"⟩, .raw (at' 1) "x"]
    let nodes : List Node :=
      [.suffixed (at' 2) .not (.joined (at' 3) []),
        .conditional (at' 4)
          [(.joined (at' 5) [.raw (at' 6) "a"], []), (.joined (at' 7) parts, parts)]]
    let library : Sources :=
      { load := fun _ => .ok ByteArray.empty
        parse := fun _ _ => .ok [.embed (at' 7) (.imported (at' 8) "p")]
        rule := ⟨"", ""⟩ }
    let input : List Node := [.extend (at' 9) "t" [("p", parts)]]
    let composed : List Node := [.embed (at' 7) (.joined (at' 8) parts)]
    Node.CompositionFree nodes ∧ compose sources 0 (some "t") nodes = ⟨.ok nodes, []⟩ ∧
      (compose library 1 none input).result = .ok composed ∧
      compose sources 0 none composed = ⟨.ok composed, []⟩ := by
  intro at' sources parts nodes library input composed
  have hnodes : Node.CompositionFree nodes :=
    (Node.allResolved_iff_compositionFree nodes).1 (by decide)
  have hcomposed : (compose library 1 none input).result = .ok composed := rfl
  exact ⟨hnodes, (compose_unchanged sources 0 (some "t") nodes).1 hnodes, hcomposed,
    (compose_unchanged sources 0 none composed).2 library 1 none input hcomposed⟩

end Stencil
