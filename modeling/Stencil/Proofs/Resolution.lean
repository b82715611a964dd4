/-
Composition is complete.

Neither imports nor extends are left in what a composition gives, whatever the
templates say, and `Node.allResolved` is the test for this.

* **`compose_compositionFree`** — both of these.

The invariant is that the exports in scope are resolved.  They are composed
before they come into scope, so an import never brings in anything that is left
to be replaced.
-/
import Stencil.Proofs.Comparison
import Stencil.Proofs.Visit

namespace Stencil

/-- No import and no extend occurs in a sequence, at any depth. -/
def Node.CompositionFree (nodes : List Node) : Prop :=
  ∀ node : Node, Node.OccursIn node nodes →
    (∀ span name, node ≠ .imported span name) ∧
      ∀ span name exports, node ≠ .extend span name exports

theorem Node.isComposition_eq_false_iff (node : Node) :
    node.isComposition = false ↔
      (∀ span name, node ≠ .imported span name) ∧
        ∀ span name exports, node ≠ .extend span name exports := by
  cases node <;> simp [Node.isComposition]

theorem Node.allResolved_iff_compositionFree (nodes : List Node) :
    Node.allResolved nodes ↔ Node.CompositionFree nodes := by
  simp only [Node.allResolved_iff_occurs, Node.CompositionFree, Node.isComposition_eq_false_iff]

/-- A node with resolved children is resolved, unless it is replaced itself. -/
theorem Node.inductive_isResolved : Node.Inductive fun node => node.isResolved :=
  fun node hnode hchildren => (Node.isResolved_iff node).2 ⟨hnode, hchildren⟩

/-- The exports in scope are resolved. -/
def Scope.Resolved (scope : Scope) : Prop := ∀ node ∈ scope.flatMap Prod.snd, node.isResolved

theorem Scope.Resolved.find? {scope : Scope} (h : scope.Resolved) {name : String}
    {nodes : List Node} (hfind : Keyed.find? name scope = some nodes) :
    ∀ node ∈ nodes, node.isResolved := by
  induction scope with
  | nil => simp [Keyed.find?] at hfind
  | cons entry scope ih =>
    obtain ⟨key, value⟩ := entry
    rw [Resolved, List.flatMap_cons, List.forall_mem_append] at h
    rw [Keyed.find?] at hfind
    split at hfind
    · cases hfind
      exact h.1
    · exact ih h.2 hfind

/-- What a visit gives is resolved if the scope is. -/
def Visit.Resolves (visit : Visit) : Prop :=
  ∀ span name scope nodes, Scope.Resolved scope → (visit span name scope).result = .ok nodes →
    ∀ node ∈ nodes, node.isResolved

theorem composeAll_resolved {visit : Visit} {scope : Scope} (hvisit : visit.Resolves)
    (hscope : scope.Resolved) {nodes result : List Node}
    (h : (composeAll visit scope nodes).result = .ok result) :
    ∀ node ∈ result, node.isResolved := by
  -- The run compared with itself.
  have himports : (Comparison.success id).RelatesImports
      (fun node => node.isResolved) scope scope := by
    intro span name nodes hnodes
    refine ⟨nodes, hnodes, by rw [Node.map_relabel_id], ?_⟩
    exact hscope.find? (importedNodes_result_eq_ok_iff.1 hnodes)
  have hextends : ∀ span name, (Comparison.success id).RelatesExtend
      (fun node => node.isResolved) visit visit scope scope span name := by
    rintro span name declared _ ⟨rfl, hdeclared⟩ nodes hnodes
    have hinner : Scope.Resolved (declared ++ scope) := by
      rw [Scope.Resolved, List.flatMap_append, List.forall_mem_append]
      exact ⟨hdeclared, hscope⟩
    refine ⟨nodes, by simpa using hnodes, by simp, hvisit _ _ _ _ hinner hnodes⟩
  have hall := (Comparison.success id).composeAll_rel fun node (_ : node ∈ nodes) =>
    (Comparison.success id).composeNode_rel Node.inductive_isResolved himports node
      fun span name _ _ => hextends span name
  obtain ⟨_, -, -, hresult⟩ := hall result h
  exact hresult

theorem visitWithin_resolves (sources : Sources) (limit : Nat) (chain : List String) :
    (visitWithin sources limit chain).Resolves := by
  induction limit generalizing chain with
  | zero =>
    intro span name scope nodes _ h
    cases h
  | succ limit ih =>
    intro span name scope nodes hscope h
    obtain ⟨_, _, _, ⟨⟩, -, -, -, h⟩ := visitWithin_result_eq_ok_iff.1 h
    exact composeAll_resolved (ih _) hscope h

/-- **Composition is complete**: what it gives is free of imports and extends at
every depth, and the resolved sequences are exactly those that are. -/
theorem compose_compositionFree (sources : Sources) (limit : Nat) (origin : Option String)
    (nodes : List Node) :
    (∀ result, (compose sources limit origin nodes).result = .ok result →
      Node.CompositionFree result) ∧
    ∀ sequence, Node.allResolved sequence = true ↔ Node.CompositionFree sequence := by
  refine ⟨fun result h => ?_, Node.allResolved_iff_compositionFree⟩
  rw [← Node.allResolved_iff_compositionFree, Node.allResolved_iff]
  exact composeAll_resolved (visitWithin_resolves _ _ _) (by simp [Scope.Resolved]) h

/-- An export of two nodes, imported in a place that takes one. -/
theorem compose_compositionFree_joined :
    let at' (start : Nat) : Span := ⟨"t", 1, 1, start, start + 1⟩
    let sources : Sources :=
      { load := fun _ => .ok ByteArray.empty
        parse := fun _ _ => .ok [.embed (at' 0) (.imported (at' 1) "x")]
        rule := ⟨"", ""⟩ }
    let nodes := [.extend (at' 2) "a" [("x", [.raw (at' 3) "b", .raw (at' 4) "c"])]]
    let result := [.embed (at' 0) (.joined (at' 1) [.raw (at' 3) "b", .raw (at' 4) "c"])]
    (compose sources 1 none nodes).result = .ok result ∧ Node.CompositionFree result := by
  intro at' sources nodes result
  have h : (compose sources 1 none nodes).result = .ok result := rfl
  exact ⟨h, (compose_compositionFree sources 1 none nodes).1 result h⟩

end Stencil
