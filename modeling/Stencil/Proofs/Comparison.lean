/-
Comparing two compositions.

Two runs of `composeNode` on the same node can differ in what their extends and
imports are replaced by, and in the labels of the sources.  A `Comparison` is a
way to relate computations that goes along with their steps.  If it relates the
replacements of the two runs, it relates the runs:

* **`Comparison.composeNode_rel`**, **`Comparison.composeAll_rel`** — the runs
  on a node, and on a sequence;
* **`Comparison.composeAll_of_visits`** — two runs on a sequence under the same labels;
* **`Comparison.success`** — what the first run gives, the second gives too;
* **`Comparison.agreement`** — both runs give the same, with the same accesses.

## Design notes

Whatever is proved about compositions needs the same induction over the tree.
It is done here once, for two runs and a predicate `P` on the nodes that come
out.  A statement about one run compares the run with itself.

What the extends of a node are replaced by is compared for those extends only
that occur in the node, since a chain of extends is bounded by what occurs.
-/
import Stencil.Proofs.Relabelling

namespace Stencil

/-- A predicate on nodes that goes from the children to a node, unless the node
is one that composition replaces. -/
def Node.Inductive (P : Node → Prop) : Prop :=
  ∀ node : Node, node.isComposition = false → (∀ child ∈ node.children, P child) → P node

/-- A way to relate computations, step by step.  The labels of the second are
those of the first under `f`. -/
structure Comparison (f : String → String) where
  Rel : ∀ {α β : Type}, (α → β → Prop) → Traced α → Traced β → Prop
  pure_rel : ∀ {α β : Type} {R : α → β → Prop} {a : α} {b : β}, R a b →
    Rel R (pure a) (pure b)
  bind_rel : ∀ {α β γ δ : Type} {R : α → β → Prop} {S : γ → δ → Prop} {x : Traced α}
    {y : Traced β} {g : α → Traced γ} {h : β → Traced δ}, Rel R x y →
    (∀ a b, R a b → Rel S (g a) (h b)) → Rel S (x >>= g) (y >>= h)
  empty_rel : ∀ {α β : Type} {R : α → β → Prop} (span : Span),
    Rel R (.fail (.emptyResult span)) (.fail (.emptyResult (span.relabel f)))

/-! ### Results that correspond -/

variable {f : String → String} {P : Node → Prop}

/-- The second node is the first under other labels, and `P` holds of the first. -/
def Carried (f : String → String) (P : Node → Prop) (a b : Node) : Prop := b = a.relabel f ∧ P a

/-- `Carried` for sequences. -/
def AllCarried (f : String → String) (P : Node → Prop) (as bs : List Node) : Prop :=
  bs = as.map (Node.relabel f) ∧ ∀ a ∈ as, P a

/-- `Carried` for the branches of chains. -/
def BranchesCarried (f : String → String) (P : Node → Prop) (as bs : List (Node × List Node)) :
    Prop :=
  bs = Node.relabelBranches f as ∧ ∀ a ∈ as.flatMap fun branch => branch.1 :: branch.2, P a

/-- `Carried` for exports that are composed. -/
def ScopeCarried (f : String → String) (P : Node → Prop) (as bs : Scope) : Prop :=
  bs = Node.relabelExports f as ∧ ∀ a ∈ as.flatMap Prod.snd, P a

theorem AllCarried.append {as as' bs bs' : List Node} (h : AllCarried f P as bs)
    (h' : AllCarried f P as' bs') : AllCarried f P (as ++ as') (bs ++ bs') := by
  refine ⟨by rw [h.1, h'.1, List.map_append], fun a ha => ?_⟩
  rcases List.mem_append.1 ha with ha | ha
  · exact h.2 a ha
  · exact h'.2 a ha

/-- Under the same labels nodes correspond to themselves. -/
theorem AllCarried.refl (nodes : List Node) : AllCarried id (fun _ => True) nodes nodes :=
  ⟨(Node.map_relabel_id nodes).symm, fun _ _ => trivial⟩

/-- Under the same labels nodes correspond to themselves only. -/
theorem AllCarried.eq {as bs : List Node} (h : AllCarried id P as bs) : bs = as :=
  h.1.trans (Node.map_relabel_id as)

theorem AllCarried.cons {a b : Node} {as bs : List Node} (h : Carried f P a b)
    (h' : AllCarried f P as bs) : AllCarried f P (a :: as) (b :: bs) := by
  refine ⟨by rw [h.1, h'.1, List.map_cons], fun node hnode => ?_⟩
  rcases List.mem_cons.1 hnode with rfl | hnode
  · exact h.2
  · exact h'.2 node hnode

/-- A single node in place of one that was composed. -/
theorem allCarried_singleton {a b : Node} (hP : Node.Inductive P) (hb : b = a.relabel f)
    (ha : a.isComposition = false) (h : ∀ child ∈ a.children, P child) :
    AllCarried f P [a] [b] :=
  ⟨by rw [hb, List.map_singleton], by simpa using hP a ha h⟩

theorem ScopeCarried.append {as as' bs bs' : Scope} (h : ScopeCarried f P as bs)
    (h' : ScopeCarried f P as' bs') : ScopeCarried f P (as ++ as') (bs ++ bs') := by
  refine ⟨by rw [h.1, h'.1]; simp, fun a ha => ?_⟩
  rw [List.flatMap_append] at ha
  rcases List.mem_append.1 ha with ha | ha
  · exact h.2 a ha
  · exact h'.2 a ha

/-! ### The induction -/

namespace Comparison

variable (C : Comparison f) {visit₁ visit₂ : Visit} {scope₁ scope₂ : Scope}

/-- The runs on a node are related. -/
def Relates (P : Node → Prop) (visit₁ visit₂ : Visit) (scope₁ scope₂ : Scope) (node : Node) :
    Prop :=
  C.Rel (AllCarried f P) (composeNode visit₁ scope₁ node)
    (composeNode visit₂ scope₂ (node.relabel f))

/-- What an import is replaced by is related, whatever its name. -/
def RelatesImports (P : Node → Prop) (scope₁ scope₂ : Scope) : Prop :=
  ∀ span name, C.Rel (AllCarried f P) (importedNodes scope₁ span name)
    (importedNodes scope₂ (span.relabel f) name)

/-- What an extend is replaced by is related, whatever it declares. -/
def RelatesExtend (P : Node → Prop) (visit₁ visit₂ : Visit) (scope₁ scope₂ : Scope)
    (span : Span) (name : String) : Prop :=
  ∀ declared₁ declared₂, ScopeCarried f P declared₁ declared₂ →
    C.Rel (AllCarried f P) (visit₁ span name (declared₁ ++ scope₁))
      (visit₂ (span.relabel f) name (declared₂ ++ scope₂))

theorem collapse_rel (hP : Node.Inductive P) (span : Span) {as bs : List Node}
    (h : AllCarried f P as bs) :
    C.Rel (Carried f P) (collapse span as) (collapse (span.relabel f) bs) := by
  obtain ⟨rfl, has⟩ := h
  match as with
  | [] => exact C.empty_rel span
  | [node] => exact C.pure_rel ⟨rfl, has node (List.mem_singleton_self _)⟩
  | first :: second :: rest =>
    refine C.pure_rel ⟨?_, hP _ rfl has⟩
    rw [Node.relabel, Node.relabelAll_eq_map]
    rfl

/-- The runs in a place that takes one node, and on from there. -/
theorem single_rel (hP : Node.Inductive P) {node : Node} {γ δ : Type} {S : γ → δ → Prop}
    {g : Node → Traced γ} {h : Node → Traced δ}
    (hnode : C.Relates P visit₁ visit₂ scope₁ scope₂ node)
    (hgh : ∀ a b, Carried f P a b → C.Rel S (g a) (h b)) :
    C.Rel S (composeNode visit₁ scope₁ node >>= fun nodes => collapse node.span nodes >>= g)
      (composeNode visit₂ scope₂ (node.relabel f) >>= fun nodes =>
        collapse (node.relabel f).span nodes >>= h) := by
  rw [Node.span_relabel]
  exact C.bind_rel hnode fun _ _ hnodes => C.bind_rel (C.collapse_rel hP node.span hnodes) hgh

theorem composeAll_rel {nodes : List Node}
    (h : ∀ node ∈ nodes, C.Relates P visit₁ visit₂ scope₁ scope₂ node) :
    C.Rel (AllCarried f P) (composeAll visit₁ scope₁ nodes)
      (composeAll visit₂ scope₂ (nodes.map (Node.relabel f))) := by
  induction nodes with
  | nil => exact C.pure_rel ⟨rfl, by simp⟩
  | cons node nodes ih =>
    rw [List.map_cons, composeAll, composeAll]
    refine C.bind_rel (h node (List.mem_cons_self ..)) fun _ _ hfirst => ?_
    refine C.bind_rel (ih fun node hnode => h node (List.mem_cons_of_mem _ hnode)) ?_
    exact fun _ _ hrest => C.pure_rel (hfirst.append hrest)

theorem composeEach_rel (hP : Node.Inductive P) {nodes : List Node}
    (h : ∀ node ∈ nodes, C.Relates P visit₁ visit₂ scope₁ scope₂ node) :
    C.Rel (AllCarried f P) (composeEach visit₁ scope₁ nodes)
      (composeEach visit₂ scope₂ (nodes.map (Node.relabel f))) := by
  induction nodes with
  | nil => exact C.pure_rel ⟨rfl, by simp⟩
  | cons node nodes ih =>
    rw [List.map_cons, composeEach, composeEach]
    refine C.single_rel hP (h node (List.mem_cons_self ..)) fun _ _ hfirst => ?_
    refine C.bind_rel (ih fun node hnode => h node (List.mem_cons_of_mem _ hnode)) ?_
    exact fun _ _ hrest => C.pure_rel (hrest.cons hfirst)

theorem composeBranches_rel (hP : Node.Inductive P) {branches : List (Node × List Node)}
    (h : ∀ node ∈ branches.flatMap fun branch => branch.1 :: branch.2,
      C.Relates P visit₁ visit₂ scope₁ scope₂ node) :
    C.Rel (BranchesCarried f P) (composeBranches visit₁ scope₁ branches)
      (composeBranches visit₂ scope₂ (Node.relabelBranches f branches)) := by
  induction branches with
  | nil => exact C.pure_rel ⟨rfl, by simp⟩
  | cons branch branches ih =>
    obtain ⟨condition, body⟩ := branch
    simp only [List.flatMap_cons, List.mem_append, List.mem_cons] at h
    rw [Node.relabelBranches, Node.relabelAll_eq_map, composeBranches, composeBranches]
    refine C.single_rel hP (h condition (.inl (.inl rfl))) fun a b hab => ?_
    refine C.bind_rel (C.composeAll_rel fun node hnode => h node (.inl (.inr hnode))) ?_
    refine fun as bs hbody => C.bind_rel (ih fun node hnode => h node (.inr hnode)) ?_
    refine fun rest rest' hrest => C.pure_rel ⟨?_, ?_⟩
    · rw [hrest.1, hab.1, hbody.1, Node.relabelBranches, Node.relabelAll_eq_map]
    · intro node hnode
      simp only [List.flatMap_cons, List.mem_append, List.mem_cons] at hnode
      rcases hnode with (rfl | hnode) | hnode
      · exact hab.2
      · exact hbody.2 node hnode
      · exact hrest.2 node hnode

theorem composeExports_rel {exports : List (String × List Node)}
    (h : ∀ node ∈ exports.flatMap Prod.snd, C.Relates P visit₁ visit₂ scope₁ scope₂ node) :
    C.Rel (ScopeCarried f P) (composeExports visit₁ scope₁ exports)
      (composeExports visit₂ scope₂ (Node.relabelExports f exports)) := by
  induction exports with
  | nil => exact C.pure_rel ⟨rfl, by simp⟩
  | cons entry exports ih =>
    obtain ⟨name, value⟩ := entry
    simp only [List.flatMap_cons, List.mem_append] at h
    rw [Node.relabelExports, Node.relabelAll_eq_map, composeExports, composeExports]
    refine C.bind_rel (C.composeAll_rel fun node hnode => h node (.inl hnode)) ?_
    refine fun as bs hvalue => C.bind_rel (ih fun node hnode => h node (.inr hnode)) ?_
    refine fun rest rest' hrest => C.pure_rel ⟨?_, ?_⟩
    · rw [hrest.1, hvalue.1, Node.relabelExports, Node.relabelAll_eq_map]
    · intro node hnode
      simp only [List.flatMap_cons, List.mem_append] at hnode
      rcases hnode with hnode | hnode
      · exact hvalue.2 node hnode
      · exact hrest.2 node hnode

/-- The runs on a node are related if the replacements of imports are, and those
of the extends that occur in the node. -/
theorem composeNode_rel (hP : Node.Inductive P)
    (himports : C.RelatesImports P scope₁ scope₂) (node : Node)
    (hextends : ∀ span name exports, Node.Occurs (.extend span name exports) node →
      C.RelatesExtend P visit₁ visit₂ scope₁ scope₂ span name) :
    C.Relates P visit₁ visit₂ scope₁ scope₂ node := by
  induction node using Node.children_induction with
  | h node ih =>
    have hchildren : ∀ child ∈ node.children, C.Relates P visit₁ visit₂ scope₁ scope₂ child :=
      fun child hchild => ih child hchild fun span name exports hoccurs =>
        hextends span name exports (.within hchild hoccurs)
    -- A node that is rebuilt from what becomes of its children.
    have hrebuilt : ∀ {a b : Node}, b = a.relabel f → a.isComposition = false →
        (∀ child ∈ a.children, P child) → C.Rel (AllCarried f P) (pure [a]) (pure [b]) :=
      fun hb ha h => C.pure_rel (allCarried_singleton hP hb ha h)
    cases node with
    | imported span name => exact himports span name
    | extend span name exports =>
      -- The exports are children of the node, what replaces it is not.
      rw [Relates, Node.relabel, composeNode, composeNode]
      refine C.bind_rel (C.composeExports_rel hchildren) fun declared₁ declared₂ hdeclared => ?_
      exact hextends span name exports .self declared₁ declared₂ hdeclared
    | tag span name parameters body =>
      have hparameters := C.composeEach_rel hP fun child hchild =>
        hchildren child (List.mem_append_left _ hchild)
      cases body with
      | none =>
        rw [Relates, Node.relabel_tag, Option.map_none, composeNode, composeNode]
        refine C.bind_rel hparameters fun as bs hnodes => hrebuilt ?_ rfl ?_
        · rw [Node.relabel_tag, Option.map_none, hnodes.1]
        · simpa [Node.children] using hnodes.2
      | some nodes =>
        have hbody : ∀ child ∈ nodes, C.Relates P visit₁ visit₂ scope₁ scope₂ child :=
          fun child hchild => hchildren child (List.mem_append_right _ hchild)
        rw [Relates, Node.relabel_tag, Option.map_some, composeNode, composeNode]
        refine C.bind_rel hparameters fun as bs hnodes => ?_
        refine C.bind_rel (C.composeAll_rel hbody) fun as' bs' hnodes' => hrebuilt ?_ rfl ?_
        · rw [Node.relabel_tag, Option.map_some, hnodes.1, hnodes'.1]
        · exact (hnodes.append hnodes').2
    | embed span target =>
      rw [Relates, Node.relabel, composeNode, composeNode]
      refine C.single_rel hP (hchildren target (by simp [Node.children])) fun a b hab => ?_
      exact hrebuilt (by rw [Node.relabel, hab.1]) rfl (by simpa [Node.children] using hab.2)
    | conditional span branches =>
      rw [Relates, Node.relabel, composeNode, composeNode]
      refine C.bind_rel (C.composeBranches_rel hP hchildren) fun as bs hbranches => ?_
      exact hrebuilt (by rw [Node.relabel, hbranches.1]) rfl hbranches.2
    | joined span parts =>
      rw [Relates, Node.relabel, Node.relabelAll_eq_map, composeNode, composeNode]
      refine C.bind_rel (C.composeAll_rel hchildren) fun as bs hnodes => hrebuilt ?_ rfl hnodes.2
      rw [Node.relabel, Node.relabelAll_eq_map, hnodes.1]
    | loop span key data body =>
      rw [Relates, Node.relabel, Node.relabelAll_eq_map, composeNode, composeNode]
      refine C.single_rel hP (hchildren key (by simp [Node.children])) fun a b hkey => ?_
      refine C.single_rel hP (hchildren data (by simp [Node.children])) fun c d hdata => ?_
      refine C.bind_rel (C.composeAll_rel fun child hchild =>
        hchildren child (by simp [Node.children, hchild])) fun as bs hbody => hrebuilt ?_ rfl ?_
      · rw [Node.relabel, Node.relabelAll_eq_map, hkey.1, hdata.1, hbody.1]
      · exact (AllCarried.cons hkey (AllCarried.cons hdata hbody)).2
    | binary span op left right =>
      rw [Relates, Node.relabel, composeNode, composeNode]
      refine C.single_rel hP (hchildren left (by simp [Node.children])) fun a b hleft => ?_
      refine C.single_rel hP (hchildren right (by simp [Node.children])) fun c d hright => ?_
      refine hrebuilt (by rw [Node.relabel, hleft.1, hright.1]) rfl ?_
      simpa [Node.children] using ⟨hleft.2, hright.2⟩
    | signed span op operand | suffixed span op operand =>
      rw [Relates, Node.relabel, composeNode, composeNode]
      refine C.single_rel hP (hchildren operand (by simp [Node.children])) fun a b hab => ?_
      exact hrebuilt (by rw [Node.relabel, hab.1]) rfl (by simpa [Node.children] using hab.2)
    | raw | path | literal | host => exact hrebuilt rfl rfl (by simp [Node.children])

/-- Two runs on the same nodes are related if the replacements of imports are, and those of
the extends that occur in the nodes. -/
theorem composeAll_of_visits (C : Comparison id) {nodes : List Node}
    (himports : C.RelatesImports (fun _ => True) scope₁ scope₂)
    (hextends : ∀ span name exports, Node.OccursIn (.extend span name exports) nodes →
      ∀ declared, C.Rel (AllCarried id fun _ => True) (visit₁ span name (declared ++ scope₁))
        (visit₂ span name (declared ++ scope₂))) :
    C.Rel (AllCarried id fun _ => True) (composeAll visit₁ scope₁ nodes)
      (composeAll visit₂ scope₂ nodes) := by
  have hnodes : ∀ node ∈ nodes, C.Relates (fun _ => True) visit₁ visit₂ scope₁ scope₂ node := by
    intro node hnode
    refine C.composeNode_rel (fun _ _ _ => trivial) himports node ?_
    intro span name exports hoccurs declared _ hdeclared
    rw [hdeclared.1, Node.relabelExports_id]
    exact hextends span name exports ⟨node, hnode, hoccurs⟩ declared
  have hcomposed := C.composeAll_rel hnodes
  rwa [Node.map_relabel_id] at hcomposed

/-! ### Two comparisons -/

/-- What the first computation gives, the second gives too. -/
def success (f : String → String) : Comparison f where
  Rel R x y := ∀ a, x.result = .ok a → ∃ b, y.result = .ok b ∧ R a b
  pure_rel := by
    rintro _ _ R a b hab _ ⟨⟩
    exact ⟨b, rfl, hab⟩
  bind_rel := by
    intro _ _ _ _ R S x y g h hxy hgh c hc
    obtain ⟨a, ha, hc⟩ := Traced.bind_result_eq_ok_iff.1 hc
    obtain ⟨b, hb, hab⟩ := hxy a ha
    obtain ⟨d, hd, hcd⟩ := hgh a b hab c hc
    exact ⟨d, Traced.bind_result_eq_ok_iff.2 ⟨b, hb, hd⟩, hcd⟩
  empty_rel := by
    rintro _ _ R span a ⟨⟩

/-- Two results that correspond, or the same error, which is one of `errors`. -/
def SameResult {α β : Type} (errors : ComposeError → Prop) (R : α → β → Prop) :
    Except ComposeError α → Except ComposeError β → Prop
  | .ok a, .ok b => R a b
  | .error e, .error e' => e = e' ∧ errors e
  | _, _ => False

/-- Both computations give the same, by the same accesses, and fail with one of
`errors` if they fail. -/
def agreement (errors : ComposeError → Prop) (hempty : ∀ span, errors (.emptyResult span)) :
    Comparison id where
  Rel R x y := x.accesses = y.accesses ∧ SameResult errors R x.result y.result
  pure_rel hab := ⟨rfl, hab⟩
  bind_rel := by
    rintro _ _ _ _ R S ⟨result, accesses⟩ ⟨result', accesses'⟩ g h ⟨rfl, hresult⟩ hgh
    -- After a failure neither of the two goes on.
    cases result with
    | error e =>
      cases result' with
      | error e' => exact ⟨rfl, hresult⟩
      | ok b => exact hresult.elim
    | ok a =>
      cases result' with
      | error e' => exact hresult.elim
      | ok b =>
        obtain ⟨haccesses, hresult'⟩ := hgh a b hresult
        exact ⟨congrArg (accesses ++ ·) haccesses, hresult'⟩
  empty_rel span := ⟨rfl, rfl, hempty span⟩

theorem eq_of_agreement_rel {α : Type} {errors : ComposeError → Prop}
    {hempty : ∀ span, errors (.emptyResult span)} {R : α → α → Prop}
    (hR : ∀ a b, R a b → b = a) {x y : Traced α} (h : (agreement errors hempty).Rel R x y) :
    y = x ∧ ∀ e, x.result = .error e → errors e := by
  obtain ⟨result, accesses⟩ := x
  obtain ⟨result', accesses'⟩ := y
  obtain ⟨rfl, hresult⟩ := h
  cases result with
  | error e =>
    cases result' with
    | error e' =>
      obtain ⟨rfl, he⟩ := hresult
      exact ⟨rfl, by rintro _ ⟨⟩; exact he⟩
    | ok b => exact hresult.elim
  | ok a =>
    cases result' with
    | error e' => exact hresult.elim
    | ok b => exact ⟨by rw [hR a b hresult], by simp⟩

end Comparison

end Stencil
