/-
Where the nodes of a composition come from.

A composition takes its nodes from the templates that it loads.  It gives them
other children, and it joins several of them in a place that takes one, but it
makes no node of its own.

* **`Node.Rebuilt`** — a node is another one with other children;
* **`Node.Stems`** — a node is a written one with other children, or stands for
  several in the place of a written one;
* **`composePath_stems`** — every node of a composed template stems from one that
  is written in a template loaded for it, and an error has the place of such a
  node or is a parse error of such a template;
* **`composeInline_stems`** — the same for a template that is given as bytes.

## Design notes

The templates that a composition loads are known from its accesses only once it
has ended.  `Traced.Meets` therefore speaks about a computation all of whose
accesses are allowed: its parts are such computations too, and in the end what is
allowed are the accesses of the whole.
-/
import Stencil.Proofs.Visit

namespace Stencil

/-! ### Nodes with other children -/

namespace Node

/-- One node is another one with other children.  What a loop binds stays, if it is a
plain variable. -/
inductive Rebuilt : Node → Node → Prop
  | leaf {node : Node} : node.children = [] → node.isComposition = false → Rebuilt node node
  | tag {span : Span} {name : String} {parameters parameters' : List Node}
      {body body' : Option (List Node)} :
      Rebuilt (.tag span name parameters body) (.tag span name parameters' body')
  | embed {span : Span} {path path' : Node} : Rebuilt (.embed span path) (.embed span path')
  | conditional {span : Span} {branches branches' : List (Node × List Node)} :
      Rebuilt (.conditional span branches) (.conditional span branches')
  | joined {span : Span} {parts parts' : List Node} :
      Rebuilt (.joined span parts) (.joined span parts')
  | loop {span : Span} {key key' data data' : Node} {body body' : List Node} :
      (∀ place keys, key = .path place keys → key' = key) →
      Rebuilt (.loop span key data body) (.loop span key' data' body')
  | binary {span : Span} {op : Operator} {left left' right right' : Node} :
      Rebuilt (.binary span op left right) (.binary span op left' right')
  | signed {span : Span} {op : Operator} {operand operand' : Node} :
      Rebuilt (.signed span op operand) (.signed span op operand')
  | suffixed {span : Span} {op : Operator} {operand operand' : Node} :
      Rebuilt (.suffixed span op operand) (.suffixed span op operand')

/-- A node is a written one with other children, or it joins what has come in the place
of a written one. -/
inductive Stems (written : Node → Prop) : Node → Prop
  | rebuilt {origin node : Node} : written origin → Rebuilt origin node → Stems written node
  | joined {origin : Node} {parts : List Node} : written origin →
      Stems written (.joined origin.span parts)

variable {written : Node → Prop} {node : Node}

theorem Rebuilt.span_eq {origin : Node} (h : Rebuilt origin node) : node.span = origin.span := by
  cases h <;> rfl

/-- What composition replaces is not put together again. -/
theorem Stems.isComposition_eq_false (h : node.Stems written) : node.isComposition = false := by
  cases h with
  | rebuilt _ hrebuilt =>
    cases hrebuilt with
    | leaf _ hkept => exact hkept
    | _ => rfl
  | joined => rfl

/-- A node that stems from a written one has its place. -/
theorem Stems.span (h : node.Stems written) :
    ∃ origin, written origin ∧ origin.span = node.span := by
  cases h with
  | rebuilt hwritten hrebuilt => exact ⟨_, hwritten, hrebuilt.span_eq.symm⟩
  | joined hwritten => exact ⟨_, hwritten, rfl⟩

end Node

/-! ### Computations with allowed accesses -/

namespace Traced

variable {α β : Type} {allowed : Access → Prop} {good good' : α → Prop} {better : β → Prop}
  {accepted : ComposeError → Prop}

/-- A computation that makes allowed accesses only gives a good result, or fails with an
accepted error. -/
def Meets (allowed : Access → Prop) (good : α → Prop) (accepted : ComposeError → Prop)
    (x : Traced α) : Prop :=
  (∀ access ∈ x.accesses, allowed access) →
    match x.result with
    | .ok a => good a
    | .error error => accepted error

theorem meets_pure {a : α} (h : good a) : (pure a : Traced α).Meets allowed good accepted :=
  fun _ => h

theorem meets_fail {error : ComposeError} (h : accepted error) :
    (fail error : Traced α).Meets allowed good accepted :=
  fun _ => h

/-- What is loaded by a computation with allowed accesses is loaded by each step of it. -/
theorem Meets.bind {x : Traced α} {f : α → Traced β} (h : x.Meets allowed good accepted)
    (hf : ∀ a, good a → (f a).Meets allowed better accepted) :
    (x >>= f).Meets allowed better accepted := by
  intro haccesses
  change match (Traced.bind x f).result with
    | .ok b => better b
    | .error error => accepted error
  change ∀ access ∈ (Traced.bind x f).accesses, allowed access at haccesses
  unfold Traced.bind at haccesses ⊢
  unfold Meets at h
  cases hx : x.result with
  | error error =>
    rw [hx] at h haccesses
    exact h haccesses
  | ok a =>
    rw [hx] at h haccesses
    have hgood : good a := h fun access haccess => haccesses access (List.mem_append_left _ haccess)
    exact hf a hgood fun access haccess => haccesses access (List.mem_append_right _ haccess)

end Traced

/-! ### Composition -/

/-- All nodes of a sequence stem from written ones, at any depth. -/
def StemAll (written : Node → Prop) (nodes : List Node) : Prop :=
  ∀ node ∈ nodes, node.Throughout (Node.Stems written)

/-- So do the values of all exports in a scope. -/
def Scope.Stems (written : Node → Prop) (scope : Scope) : Prop :=
  ∀ entry ∈ scope, StemAll written entry.2

theorem Scope.Stems.of_find? {written : Node → Prop} {scope : Scope} (h : scope.Stems written)
    {name : String} {nodes : List Node} (hfind : Keyed.find? name scope = some nodes) :
    StemAll written nodes :=
  h (name, nodes) (Keyed.mem_of_find? hfind)

section Composition

variable {allowed : Access → Prop} {written : Node → Prop} {accepted : ComposeError → Prop}
  {visit : Visit} {scope : Scope}

/-- What stands in a place that takes one node. -/
theorem collapse_stems {origin : Node} {nodes : List Node} (horigin : written origin)
    (haccepted : accepted (.emptyResult origin.span)) (hnodes : StemAll written nodes) :
    (collapse origin.span nodes).Meets allowed
      (fun single => single.Throughout (Node.Stems written)) accepted := by
  unfold collapse
  split
  · exact Traced.meets_fail haccepted
  · exact Traced.meets_pure (hnodes _ (List.mem_cons_self ..))
  · exact Traced.meets_pure (.of_children (.joined horigin) hnodes)

/-- A written node that is put together again from children. -/
theorem rebuilt_stems {node node' : Node} (hwritten : written node) (h : Node.Rebuilt node node')
    (hchildren : StemAll written node'.children) :
    (pure [node'] : Traced (List Node)).Meets allowed (StemAll written) accepted :=
  Traced.meets_pure (List.forall_mem_singleton.2 (.of_children (.rebuilt hwritten h) hchildren))

variable (hblame : ∀ origin error, written origin → error.span? = some origin.span →
  accepted error)
include hblame

theorem importedNodes_stems {span : Span} {name : String} (hscope : scope.Stems written)
    (hwritten : written (.imported span name)) :
    (importedNodes scope span name).Meets allowed (StemAll written) accepted := by
  unfold importedNodes
  split
  · exact Traced.meets_pure (hscope.of_find? ‹_›)
  · exact Traced.meets_fail (hblame _ _ hwritten rfl)

/-- A written node whose composition makes nodes that stem from written ones. -/
structure ComposesFrom (allowed : Access → Prop) (written : Node → Prop)
    (accepted : ComposeError → Prop) (visit : Visit) (scope : Scope) (node : Node) : Prop where
  isWritten : written node
  meets : (composeNode visit scope node).Meets allowed (StemAll written) accepted

/-- A node that is composed in a place that takes one. -/
theorem single_stems {node : Node} {α : Type} {better : α → Prop} {g : Node → Traced α}
    (h : ComposesFrom allowed written accepted visit scope node)
    (hg : ∀ single : Node, single.Throughout (Node.Stems written) →
      (g single).Meets allowed better accepted) :
    (composeNode visit scope node >>= fun nodes => collapse node.span nodes >>= g).Meets allowed
      better accepted :=
  h.meets.bind fun _ hnodes =>
    (collapse_stems h.isWritten (hblame _ _ h.isWritten rfl) hnodes).bind hg

/-- What a loop binds.  A plain variable is not replaced. -/
theorem key_stems {key : Node} {α : Type} {better : α → Prop} {g : Node → Traced α}
    (h : ComposesFrom allowed written accepted visit scope key)
    (hg : ∀ single : Node, single.Throughout (Node.Stems written) →
      (∀ place keys, key = .path place keys → single = key) →
      (g single).Meets allowed better accepted) :
    (composeNode visit scope key >>= fun nodes => collapse key.span nodes >>= g).Meets allowed
      better accepted := by
  by_cases hkey : ∃ place keys, key = .path place keys
  · obtain ⟨place, keys, rfl⟩ := hkey
    have hsingle : (Node.path place keys).Throughout (Node.Stems written) :=
      .of_children (.rebuilt h.isWritten (.leaf rfl rfl)) fun child hmem =>
        absurd hmem (by simp [Node.children])
    have hstep : (composeNode visit scope (.path place keys) >>= fun nodes =>
        collapse (Node.path place keys).span nodes >>= g) = g (.path place keys) := by
      rw [composeNode]
      rfl
    rw [hstep]
    exact hg _ hsingle fun _ _ _ => rfl
  · refine single_stems hblame h fun single hsingle => hg single hsingle ?_
    intro place keys heq
    exact absurd ⟨place, keys, heq⟩ hkey

omit hblame in
theorem composeAll_stems {nodes : List Node}
    (h : ∀ node ∈ nodes, ComposesFrom allowed written accepted visit scope node) :
    (composeAll visit scope nodes).Meets allowed (StemAll written) accepted := by
  induction nodes with
  | nil => exact Traced.meets_pure fun node hnode => absurd hnode (by simp)
  | cons node nodes ih =>
    obtain ⟨hnode, hnodes⟩ := List.forall_mem_cons.1 h
    rw [composeAll]
    refine hnode.meets.bind fun first hfirst => (ih hnodes).bind fun rest hrest => ?_
    exact Traced.meets_pure (List.forall_mem_append.2 ⟨hfirst, hrest⟩)

theorem composeEach_stems {nodes : List Node}
    (h : ∀ node ∈ nodes, ComposesFrom allowed written accepted visit scope node) :
    (composeEach visit scope nodes).Meets allowed (StemAll written) accepted := by
  induction nodes with
  | nil => exact Traced.meets_pure fun node hnode => absurd hnode (by simp)
  | cons node nodes ih =>
    obtain ⟨hnode, hnodes⟩ := List.forall_mem_cons.1 h
    rw [composeEach]
    refine single_stems hblame hnode fun first hfirst => (ih hnodes).bind fun rest hrest => ?_
    exact Traced.meets_pure (List.forall_mem_cons.2 ⟨hfirst, hrest⟩)

theorem composeBranches_stems {branches : List (Node × List Node)}
    (h : ∀ node ∈ branches.flatMap fun branch => branch.1 :: branch.2,
      ComposesFrom allowed written accepted visit scope node) :
    (composeBranches visit scope branches).Meets allowed
      (fun composed => StemAll written (composed.flatMap fun branch => branch.1 :: branch.2))
      accepted := by
  induction branches with
  | nil => exact Traced.meets_pure fun node hnode => absurd hnode (by simp)
  | cons branch branches ih =>
    obtain ⟨condition, body⟩ := branch
    rw [List.flatMap_cons, List.forall_mem_append, List.forall_mem_cons] at h
    obtain ⟨⟨hcondition, hbody⟩, hbranches⟩ := h
    rw [composeBranches]
    refine single_stems hblame hcondition fun single hsingle => ?_
    refine (composeAll_stems hbody).bind fun nodes hnodes => ?_
    refine (ih hbranches).bind fun rest hrest => Traced.meets_pure ?_
    rw [List.flatMap_cons]
    exact List.forall_mem_append.2 ⟨List.forall_mem_cons.2 ⟨hsingle, hnodes⟩, hrest⟩

omit hblame in
theorem composeExports_stems {exports : List (String × List Node)}
    (h : ∀ node ∈ exports.flatMap Prod.snd,
      ComposesFrom allowed written accepted visit scope node) :
    (composeExports visit scope exports).Meets allowed (Scope.Stems written) accepted := by
  induction exports with
  | nil => exact Traced.meets_pure fun entry hentry => absurd hentry (by simp)
  | cons entry exports ih =>
    obtain ⟨name, value⟩ := entry
    obtain ⟨hvalue, hexports⟩ := List.forall_mem_append.1 (List.flatMap_cons ▸ h)
    rw [composeExports]
    refine (composeAll_stems hvalue).bind fun nodes hnodes => ?_
    refine (ih hexports).bind fun rest hrest => ?_
    exact Traced.meets_pure (List.forall_mem_cons.2 ⟨hnodes, hrest⟩)

/-- **Composing a node makes nodes that stem from written ones**, if visiting a template
does. -/
theorem composeNode_stems
    (hvisit : ∀ span path exports inner, written (.extend span path exports) →
      Scope.Stems written inner →
      (visit span path inner).Meets allowed (StemAll written) accepted)
    (hscope : scope.Stems written) (node : Node) (hnode : node.Throughout written) :
    (composeNode visit scope node).Meets allowed (StemAll written) accepted := by
  induction node using Node.children_induction with
  | h node ih =>
    have hself : written node := hnode.self
    have hchildren : ∀ child ∈ node.children,
        ComposesFrom allowed written accepted visit scope child :=
      fun child hmem => ⟨(hnode.child hmem).self, ih child hmem (hnode.child hmem)⟩
    clear ih hnode
    cases node with
    | raw | path | literal | host =>
      exact rebuilt_stems hself (.leaf rfl rfl) fun node hmem =>
        absurd hmem (by simp [Node.children])
    | imported span name => exact importedNodes_stems hblame hscope hself
    | extend span path exports =>
      rw [composeNode]
      refine (composeExports_stems hchildren).bind fun declared hdeclared => ?_
      exact hvisit span path exports _ hself (List.forall_mem_append.2 ⟨hdeclared, hscope⟩)
    | tag span name parameters body =>
      obtain ⟨hparameters, hbody⟩ := List.forall_mem_append.1 hchildren
      cases body with
      | none =>
        rw [composeNode]
        refine (composeEach_stems hblame hparameters).bind fun parameters' h => ?_
        exact rebuilt_stems hself .tag (by simpa [Node.children] using h)
      | some nodes =>
        rw [composeNode]
        refine (composeEach_stems hblame hparameters).bind fun parameters' h => ?_
        refine (composeAll_stems hbody).bind fun nodes' h' => ?_
        exact rebuilt_stems hself .tag (List.forall_mem_append.2 ⟨h, h'⟩)
    | conditional span branches =>
      rw [composeNode]
      refine (composeBranches_stems hblame hchildren).bind fun branches' h => ?_
      exact rebuilt_stems hself .conditional h
    | joined span parts =>
      rw [composeNode]
      refine (composeAll_stems hchildren).bind fun parts' h => ?_
      exact rebuilt_stems hself .joined h
    | loop span key data body =>
      obtain ⟨hkey, hrest⟩ := List.forall_mem_cons.1 hchildren
      obtain ⟨hdata, hbody⟩ := List.forall_mem_cons.1 hrest
      rw [composeNode]
      refine key_stems hblame hkey fun key' h hplain => ?_
      refine single_stems hblame hdata fun data' h' => ?_
      refine (composeAll_stems hbody).bind fun body' h'' => ?_
      exact rebuilt_stems hself (.loop hplain)
        (List.forall_mem_cons.2 ⟨h, List.forall_mem_cons.2 ⟨h', h''⟩⟩)
    | embed span path =>
      rw [composeNode]
      refine single_stems hblame (hchildren _ (List.mem_singleton_self _)) fun path' h => ?_
      exact rebuilt_stems hself .embed (List.forall_mem_singleton.2 h)
    | binary span op left right =>
      obtain ⟨hleft, hright⟩ := List.forall_mem_cons.1 hchildren
      rw [composeNode]
      refine single_stems hblame hleft fun left' h => ?_
      refine single_stems hblame (hright _ (List.mem_singleton_self _)) fun right' h' => ?_
      exact rebuilt_stems hself .binary
        (List.forall_mem_cons.2 ⟨h, List.forall_mem_singleton.2 h'⟩)
    | signed span op operand =>
      rw [composeNode]
      refine single_stems hblame (hchildren _ (List.mem_singleton_self _)) fun operand' h => ?_
      exact rebuilt_stems hself .signed (List.forall_mem_singleton.2 h)
    | suffixed span op operand =>
      rw [composeNode]
      refine single_stems hblame (hchildren _ (List.mem_singleton_self _)) fun operand' h => ?_
      exact rebuilt_stems hself .suffixed (List.forall_mem_singleton.2 h)

end Composition

/-! ### Templates -/

namespace Sources

/-- A node that is written in one of the given templates, each of which is known by its
bytes and its label. -/
def Writes (sources : Sources) (given : ByteArray → String → Prop) (node : Node) : Prop :=
  ∃ bytes label nodes, given bytes label ∧ sources.parse bytes label = .ok nodes ∧
    Node.OccursIn node nodes

/-- An error whose place, if it has one, is found in one of the given templates. -/
inductive Explains (sources : Sources) (given : ByteArray → String → Prop) : ComposeError → Prop
  | node {origin : Node} {error : ComposeError} : sources.Writes given origin →
      error.span? = some origin.span → Explains sources given error
  | text {bytes : ByteArray} {label : String} {cause : ParseError} : given bytes label →
      sources.parse bytes label = .error cause → Explains sources given (.parse cause)
  | nowhere {error : ComposeError} : error.span? = none → Explains sources given error

variable {sources : Sources} {given : ByteArray → String → Prop} {allowed : Access → Prop}

theorem fetch_meets {path : String} {span : Option Span}
    (hgiven : ∀ bytes, allowed (.load path) → sources.load path = .ok bytes → given bytes path)
    (hmissing : sources.Explains given (.fileNotFound path span)) :
    (sources.fetch path span).Meets allowed (given · path) (sources.Explains given) := by
  intro haccesses
  have hload : allowed (.load path) := haccesses _ (List.mem_singleton_self _)
  split
  · rename_i bytes hbytes
    exact hgiven bytes hload (fetch_result_eq_ok_iff.1 hbytes)
  · rename_i error herror
    rcases fetch_result_error herror with rfl | ⟨message, rfl⟩
    · exact hmissing
    · exact .nowhere rfl

theorem read_meets {bytes : ByteArray} {label : String} (hgiven : given bytes label) :
    (sources.read bytes label).Meets allowed
      (fun nodes => ∀ node ∈ nodes, node.Throughout (sources.Writes given))
      (sources.Explains given) := by
  intro _
  split
  · rename_i nodes hnodes
    have hparse := read_result_eq_ok_iff.1 hnodes
    exact fun top htop node hnode => ⟨bytes, label, nodes, hgiven, hparse, top, htop, hnode⟩
  · rename_i error herror
    unfold read at herror
    cases hparse : sources.parse bytes label with
    | error cause =>
      rw [hparse] at herror
      cases herror
      exact .text hgiven hparse
    | ok nodes =>
      rw [hparse] at herror
      cases herror

end Sources

section Templates

variable {sources : Sources} {given : ByteArray → String → Prop} {allowed : Access → Prop}
  (hgiven : ∀ path bytes, allowed (.load path) → sources.load path = .ok bytes → given bytes path)
include hgiven

/-- What an extend in a given template is replaced by, in a scope of such nodes. -/
theorem visitWithin_stems (depth : Nat) (chain : List String) {origin : Node} {name : String}
    {scope : Scope} (horigin : sources.Writes given origin)
    (hscope : scope.Stems (sources.Writes given)) :
    (visitWithin sources depth chain origin.span name scope).Meets allowed
      (StemAll (sources.Writes given)) (sources.Explains given) := by
  -- The induction is on how deep extends may still be nested, for every extend and scope.
  induction depth generalizing chain origin name scope with
  | zero => exact Traced.meets_fail (.node horigin rfl)
  | succ depth ih =>
    rw [visitWithin]
    split
    · exact Traced.meets_fail (.node horigin rfl)
    · refine (Sources.fetch_meets (hgiven _) (.node horigin rfl)).bind fun bytes hbytes => ?_
      refine (Sources.read_meets hbytes).bind fun nodes hnodes => composeAll_stems ?_
      intro node hnode
      refine ⟨(hnodes node hnode).self, ?_⟩
      refine composeNode_stems (fun _ _ => .node) ?_ hscope node (hnodes node hnode)
      intro span path exports inner hextend hinner
      exact ih _ hextend hinner

/-- Nodes of a given template are composed to nodes that stem from given templates. -/
theorem compose_stems (depth : Nat) (origin : Option String) {nodes : List Node}
    (hnodes : ∀ node ∈ nodes, node.Throughout (sources.Writes given)) :
    (compose sources depth origin nodes).Meets allowed (StemAll (sources.Writes given))
      (sources.Explains given) := by
  refine composeAll_stems fun node hnode => ⟨(hnodes node hnode).self, ?_⟩
  refine composeNode_stems (fun _ _ => .node) ?_ (fun entry hentry => absurd hentry (by simp)) node
    (hnodes node hnode)
  intro span path exports inner hextend hinner
  exact visitWithin_stems hgiven depth _ hextend hinner

/-- **The nodes of a composed template stem from the templates that were loaded for it**,
and there the place of an error is found. -/
theorem composePath_stems (depth : List Node → Nat) (path : String) :
    (composePath sources depth path).Meets allowed (StemAll (sources.Writes given))
      (sources.Explains given) := by
  refine (Sources.fetch_meets (hgiven path) (.nowhere rfl)).bind fun bytes hbytes => ?_
  exact (Sources.read_meets hbytes).bind fun nodes hnodes =>
    compose_stems hgiven (depth nodes) (some path) hnodes

/-- **So do those of a template that is given as bytes**, from these bytes too. -/
theorem composeInline_stems (depth : List Node → Nat) {bytes : ByteArray} {label : String}
    (hbytes : given bytes label) :
    (composeInline sources depth bytes label).Meets allowed (StemAll (sources.Writes given))
      (sources.Explains given) :=
  (Sources.read_meets hbytes).bind fun nodes hnodes =>
    compose_stems hgiven (depth nodes) none hnodes

end Templates

end Stencil
