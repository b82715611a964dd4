/-
Exports are scoped lexically.

The reference resolver `Lexical.resolve` keeps exports as they are written, in
frames.  A frame is made by an extend and captures the frames and the chain at
its place; the value of an export is resolved in what its frame has captured,
each time that it is imported.

* **`compose_lexical`** — what composition gives, the reference resolver gives
  too, node for node and span for span.

## Design notes

Composition resolves exports when they are declared, and keeps one scope of
resolved values.  `Scope.Matches` relates such a scope to frames: the values of
each extend are those that its frame gives.  Imports nest as deep as frames
allow, which composition does not count, so the resolver has fuel of its own,
and `Settles` says what it gives with all fuel that is large enough.
-/
import Mathlib
import Stencil.Proofs.Occurrence
import Stencil.Proofs.Visit

namespace Stencil

/-! ### The reference resolver -/

namespace Lexical

/-- An extend around a place: its exports as they are written, and the frames
and the chain at its own place. -/
structure Frame where
  exports : List (String × List Node)
  outer : List Frame
  chain : List String

/-- The innermost frame that declares an export, and its value. -/
def declaring? (name : String) : List Frame → Option (Frame × List Node)
  | [] => none
  | frame :: frames =>
    match Keyed.find? name frame.exports with
    | some value => some (frame, value)
    | none => declaring? name frames

/-- What imports and extends are replaced by. -/
structure Rules where
  imported : Span → String → Traced (List Node)
  extended : Span → String → List (String × List Node) → Traced (List Node)

mutual

/-- What a node becomes when imports and extends in it are replaced. -/
def expandNode (rules : Rules) : Node → Traced (List Node)
  | .imported span name => rules.imported span name
  | .extend span name exports => rules.extended span name exports
  | .tag span name parameters none => do
    let parameters ← expandEach rules parameters
    return [.tag span name parameters none]
  | .tag span name parameters (some body) => do
    let parameters ← expandEach rules parameters
    let body ← expandAll rules body
    return [.tag span name parameters (some body)]
  | .embed span target => do
    let target ← collapse target.span (← expandNode rules target)
    return [.embed span target]
  | .conditional span branches => do
    let branches ← expandBranches rules branches
    return [.conditional span branches]
  | .joined span parts => do
    let parts ← expandAll rules parts
    return [.joined span parts]
  | .loop span key data body => do
    let key ← collapse key.span (← expandNode rules key)
    let data ← collapse data.span (← expandNode rules data)
    let body ← expandAll rules body
    return [.loop span key data body]
  | .binary span op left right => do
    let left ← collapse left.span (← expandNode rules left)
    let right ← collapse right.span (← expandNode rules right)
    return [.binary span op left right]
  | .signed span op operand => do
    let operand ← collapse operand.span (← expandNode rules operand)
    return [.signed span op operand]
  | .suffixed span op operand => do
    let operand ← collapse operand.span (← expandNode rules operand)
    return [.suffixed span op operand]
  | node@(.raw ..) | node@(.path ..) | node@(.literal ..) | node@(.host ..) => return [node]

/-- `expandNode` for a sequence. -/
def expandAll (rules : Rules) : List Node → Traced (List Node)
  | [] => return []
  | node :: nodes => do
    let first ← expandNode rules node
    let rest ← expandAll rules nodes
    return first ++ rest

/-- `expandNode` in places that take one node each. -/
def expandEach (rules : Rules) : List Node → Traced (List Node)
  | [] => return []
  | node :: nodes => do
    let first ← collapse node.span (← expandNode rules node)
    let rest ← expandEach rules nodes
    return first :: rest

/-- `expandNode` for the branches of a chain. -/
def expandBranches (rules : Rules) :
    List (Node × List Node) → Traced (List (Node × List Node))
  | [] => return []
  | (condition, body) :: branches => do
    let condition ← collapse condition.span (← expandNode rules condition)
    let body ← expandAll rules body
    let rest ← expandBranches rules branches
    return (condition, body) :: rest

end

/-- A resolver of nodes, given the frames and the chain at their place. -/
abbrev Resolver := List Frame → List String → List Node → Traced (List Node)

/-- The rules at a place.  An import is resolved where it was declared,
and an extend is resolved in a new frame. -/
def rulesAt (sources : Sources) (resolver : Resolver) (frames : List Frame)
    (chain : List String) : Rules where
  imported span name :=
    match declaring? name frames with
    | some (frame, value) => resolver frame.outer frame.chain value
    | none => .fail (.noSuchExport name span)
  extended span name exports :=
    let path := sources.rule.normalize name
    if path ∈ chain then
      .fail (.circular (chain ++ [path]) span)
    else do
      let bytes ← sources.fetch path (some span)
      let nodes ← sources.read bytes path
      resolver (⟨exports, frames, chain⟩ :: frames) (chain ++ [path]) nodes

/-- Resolve nodes, with imports and extends followed at most so often one from
within the other. -/
def resolveWithin (sources : Sources) : Nat → Resolver
  | 0, _, _, nodes =>
    expandAll ⟨fun span _ => .fail (.tooDeep span), fun span _ _ => .fail (.tooDeep span)⟩ nodes
  | fuel + 1, frames, chain, nodes =>
    expandAll (rulesAt sources (resolveWithin sources fuel) frames chain) nodes

/-- Resolve the nodes of a template. -/
def resolve (sources : Sources) (fuel : Nat) (origin : Option String) (nodes : List Node) :
    Traced (List Node) :=
  resolveWithin sources fuel [] origin.toList nodes

end Lexical

/-! ### Results with enough fuel -/

/-- What computations with more and more fuel give from some amount on. -/
def Settles {α : Type} (y : Nat → Traced α) (a : α) : Prop :=
  ∃ bound, ∀ fuel, bound ≤ fuel → (y fuel).result = .ok a

/-- What a computation gives, others with more and more fuel give from some amount
on. -/
def Yields {α : Type} (x : Traced α) (y : Nat → Traced α) : Prop :=
  ∀ a, x.result = .ok a → Settles y a

theorem Yields.refl {α : Type} (x : Traced α) : Yields x fun _ => x :=
  fun _ ha => ⟨0, fun _ _ => ha⟩

theorem Yields.bind {α β : Type} {x : Traced α} {y : Nat → Traced α} {g : α → Traced β}
    {h : Nat → α → Traced β} (hxy : Yields x y) (hgh : ∀ a, Yields (g a) fun fuel => h fuel a) :
    Yields (x >>= g) fun fuel => y fuel >>= h fuel := by
  intro b hb
  obtain ⟨a, ha, hb⟩ := Traced.result_bind_eq_ok_iff.1 hb
  obtain ⟨bound, hbound⟩ := hxy a ha
  obtain ⟨bound', hbound'⟩ := hgh a b hb
  refine ⟨max bound bound', fun fuel hfuel => Traced.result_bind_eq_ok_iff.2 ⟨a, ?_, ?_⟩⟩
  · exact hbound fuel (by omega)
  · exact hbound' fuel (by omega)

/-! ### The induction over the tree -/

namespace Lexical

variable {visit : Visit} {scope : Scope} {rules : Nat → Rules}

/-- What a node is replaced by, the rules come to replace it by. -/
def YieldsNode (visit : Visit) (scope : Scope) (rules : Nat → Rules) (node : Node) : Prop :=
  Yields (composeNode visit scope node) fun fuel => expandNode (rules fuel) node

/-- The exports of an extend as they are composed, and as they are written. -/
def YieldsExports (rules : Nat → Rules) (declared : Scope) (exports : List (String × List Node)) :
    Prop :=
  List.Forall₂ (fun entry entry' => entry.1 = entry'.1 ∧
    Settles (fun fuel => expandAll (rules fuel) entry'.2) entry.2) declared exports

theorem single_yields {α : Type} {node : Node} {g : Node → Traced α} {h : Nat → Node → Traced α}
    (hnode : YieldsNode visit scope rules node) (hgh : ∀ a, Yields (g a) fun fuel => h fuel a) :
    Yields (composeNode visit scope node >>= fun nodes => collapse node.span nodes >>= g)
      fun fuel => expandNode (rules fuel) node >>= fun nodes =>
        collapse node.span nodes >>= h fuel :=
  Yields.bind hnode fun nodes => Yields.bind (Yields.refl (collapse node.span nodes)) hgh

theorem expandAll_yields {nodes : List Node}
    (h : ∀ node ∈ nodes, YieldsNode visit scope rules node) :
    Yields (composeAll visit scope nodes) fun fuel => expandAll (rules fuel) nodes := by
  induction nodes with
  | nil => exact Yields.refl _
  | cons node nodes ih =>
    rw [List.forall_mem_cons] at h
    simp only [composeAll, expandAll]
    refine Yields.bind h.1 fun first => ?_
    exact Yields.bind (ih h.2) fun rest => Yields.refl (pure (first ++ rest))

theorem expandEach_yields {nodes : List Node}
    (h : ∀ node ∈ nodes, YieldsNode visit scope rules node) :
    Yields (composeEach visit scope nodes) fun fuel => expandEach (rules fuel) nodes := by
  induction nodes with
  | nil => exact Yields.refl _
  | cons node nodes ih =>
    rw [List.forall_mem_cons] at h
    simp only [composeEach, expandEach]
    refine single_yields h.1 fun first => ?_
    exact Yields.bind (ih h.2) fun rest => Yields.refl (pure (first :: rest))

theorem expandBranches_yields {branches : List (Node × List Node)}
    (h : ∀ node ∈ branches.flatMap fun branch => branch.1 :: branch.2,
      YieldsNode visit scope rules node) :
    Yields (composeBranches visit scope branches) fun fuel =>
      expandBranches (rules fuel) branches := by
  induction branches with
  | nil => exact Yields.refl _
  | cons branch branches ih =>
    obtain ⟨condition, body⟩ := branch
    rw [List.flatMap_cons, List.forall_mem_append, List.forall_mem_cons] at h
    simp only [composeBranches, expandBranches]
    refine single_yields h.1.1 fun a => Yields.bind (expandAll_yields h.1.2) fun nodes => ?_
    exact Yields.bind (ih h.2) fun rest => Yields.refl (pure ((a, nodes) :: rest))

theorem composeExports_yields {exports : List (String × List Node)} {declared : Scope}
    (h : ∀ node ∈ exports.flatMap Prod.snd, YieldsNode visit scope rules node)
    (hdeclared : (composeExports visit scope exports).result = .ok declared) :
    YieldsExports rules declared exports := by
  induction exports generalizing declared with
  | nil =>
    cases hdeclared
    exact List.Forall₂.nil
  | cons entry exports ih =>
    obtain ⟨name, value⟩ := entry
    rw [List.flatMap_cons, List.forall_mem_append] at h
    rw [composeExports] at hdeclared
    obtain ⟨nodes, hnodes, hdeclared⟩ := Traced.result_bind_eq_ok_iff.1 hdeclared
    obtain ⟨rest, hrest, hdeclared⟩ := Traced.result_bind_eq_ok_iff.1 hdeclared
    cases hdeclared
    exact List.Forall₂.cons ⟨rfl, expandAll_yields h.1 nodes hnodes⟩ (ih h.2 hrest)

/-- The rules come to replace a node by what it is replaced by, if they do so for
imports and for extends. -/
theorem expandNode_yields
    (himported : ∀ span name, Yields (importedNodes scope span name) fun fuel =>
      (rules fuel).imported span name)
    (hextended : ∀ span name exports declared, YieldsExports rules declared exports →
      Yields (visit span name (declared ++ scope)) fun fuel =>
        (rules fuel).extended span name exports) (node : Node) :
    YieldsNode visit scope rules node := by
  induction node using Node.children_induction with
  | h node ih =>
    cases node with
    | imported span name => exact himported span name
    | extend span name exports =>
      intro result hresult
      obtain ⟨declared, hdeclared, hresult⟩ := Traced.result_bind_eq_ok_iff.1 hresult
      exact hextended span name exports declared (composeExports_yields ih hdeclared) result hresult
    | tag span name parameters body =>
      have hparameters := expandEach_yields fun node hnode => ih node (List.mem_append_left _ hnode)
      cases body with
      | none =>
        simp only [YieldsNode, composeNode, expandNode]
        exact Yields.bind hparameters fun nodes => Yields.refl _
      | some body =>
        have hbody : ∀ node ∈ body, YieldsNode visit scope rules node := fun node hnode =>
          ih node (List.mem_append_right _ hnode)
        simp only [YieldsNode, composeNode, expandNode]
        refine Yields.bind hparameters fun nodes => ?_
        exact Yields.bind (expandAll_yields hbody) fun nodes' => Yields.refl _
    | embed span target =>
      simp only [YieldsNode, composeNode, expandNode]
      exact single_yields (ih target (by simp [Node.children])) fun a => Yields.refl _
    | conditional span branches =>
      simp only [YieldsNode, composeNode, expandNode]
      exact Yields.bind (expandBranches_yields ih) fun a => Yields.refl _
    | joined span parts =>
      simp only [YieldsNode, composeNode, expandNode]
      exact Yields.bind (expandAll_yields ih) fun a => Yields.refl _
    | loop span key data body =>
      rw [Node.children, List.forall_mem_cons, List.forall_mem_cons] at ih
      obtain ⟨hkey, hdata, hbody⟩ := ih
      simp only [YieldsNode, composeNode, expandNode]
      refine single_yields hkey fun a => single_yields hdata fun b => ?_
      exact Yields.bind (expandAll_yields hbody) fun nodes => Yields.refl _
    | binary span op left right =>
      simp only [YieldsNode, composeNode, expandNode]
      refine single_yields (ih left (by simp [Node.children])) fun a => ?_
      exact single_yields (ih right (by simp [Node.children])) fun b => Yields.refl _
    | signed span op operand | suffixed span op operand =>
      simp only [YieldsNode, composeNode, expandNode]
      exact single_yields (ih operand (by simp [Node.children])) fun a => Yields.refl _
    | raw | path | literal | host => exact Yields.refl _

/-! ### Scopes and frames -/

variable {sources : Sources}

/-- The resolvers with more and more fuel, in a place. -/
abbrev ResolverSettles (sources : Sources) (frames : List Frame) (chain : List String)
    (nodes result : List Node) : Prop :=
  Settles (fun fuel => resolveWithin sources fuel frames chain nodes) result

/-- The rules at a place, with more and more fuel. -/
abbrev rulesWithin (sources : Sources) (frames : List Frame) (chain : List String) (fuel : Nat) :
    Rules :=
  rulesAt sources (resolveWithin sources fuel) frames chain

/-- A scope holds, extend by extend, what the frames give for their exports. -/
inductive Matches (sources : Sources) : Scope → List Frame → Prop
  | outermost : Matches sources [] []
  | within {declared scope : Scope} {frames : List Frame} {exports : List (String × List Node)}
      {chain : List String} : Matches sources scope frames →
      YieldsExports (rulesWithin sources frames chain) declared exports →
      Matches sources (declared ++ scope) (⟨exports, frames, chain⟩ :: frames)

/-- Rules that come to replace nodes do so as resolvers. -/
theorem resolverSettles_of_rules {frames : List Frame} {chain : List String}
    {nodes result : List Node}
    (h : Settles (fun fuel => expandAll (rulesWithin sources frames chain fuel) nodes) result) :
    ResolverSettles sources frames chain nodes result := by
  obtain ⟨bound, hbound⟩ := h
  -- The rules at a place are made with one unit of fuel less than the resolver has.
  refine ⟨bound + 1, ?_⟩
  intro fuel hfuel
  obtain ⟨fuel, rfl⟩ : ∃ n, fuel = n + 1 := ⟨fuel - 1, by omega⟩
  exact hbound fuel (by omega)

/-- An export among those of one extend. -/
theorem YieldsExports.find? {declared scope : Scope} {exports : List (String × List Node)}
    (h : YieldsExports rules declared exports) (name : String) :
    (∃ nodes value, Keyed.find? name (declared ++ scope) = some nodes ∧
      Keyed.find? name exports = some value ∧
      Settles (fun fuel => expandAll (rules fuel) value) nodes) ∨
    (Keyed.find? name (declared ++ scope) = Keyed.find? name scope ∧
      Keyed.find? name exports = none) := by
  induction h with
  | nil => exact .inr ⟨rfl, rfl⟩
  | @cons entry entry' declared exports hentry _ ih =>
    obtain ⟨key, nodes⟩ := entry
    obtain ⟨key', value⟩ := entry'
    obtain ⟨rfl : key = key', hsettles⟩ := hentry
    rw [List.cons_append, Keyed.find?, Keyed.find?]
    by_cases hkey : key = name
    · rw [if_pos hkey, if_pos hkey]
      exact .inl ⟨nodes, value, rfl, rfl, hsettles⟩
    · rw [if_neg hkey, if_neg hkey]
      exact ih

/-- What an import is replaced by is what the innermost frame that declares it
gives. -/
theorem Matches.declaring? {scope : Scope} {frames : List Frame} {name : String}
    {nodes : List Node} (h : Matches sources scope frames)
    (hfind : Keyed.find? name scope = some nodes) :
    ∃ frame value, declaring? name frames = some (frame, value) ∧
      ResolverSettles sources frame.outer frame.chain value nodes := by
  induction h with
  | outermost => cases hfind
  | @within declared scope frames exports chain _ hexports ih =>
    rw [Lexical.declaring?]
    rcases hexports.find? name with ⟨found, value, hfound, hvalue, hsettles⟩ | ⟨hscope, hnone⟩
    · obtain rfl := Option.some.inj (hfound.symm.trans hfind)
      rw [hvalue]
      exact ⟨_, value, rfl, resolverSettles_of_rules hsettles⟩
    · rw [hnone]
      exact ih (hscope ▸ hfind)

/-- What a composition within a scope gives, the resolver gives within frames that
match the scope. -/
theorem composeAll_lexical {limit : Nat} {chain : List String} {scope : Scope}
    {frames : List Frame} (hscope : Matches sources scope frames) {nodes result : List Node}
    (h : (composeAll (visitWithin sources limit chain) scope nodes).result = .ok result) :
    ResolverSettles sources frames chain nodes result := by
  induction limit using Nat.strongRecOn generalizing chain scope frames nodes result with
  | _ limit ih =>
    refine resolverSettles_of_rules (expandAll_yields (fun node _ => ?_) result h)
    refine expandNode_yields ?_ ?_ node
    · -- An import is resolved in the frame that the scope has it from.
      intro span name nodes hnodes
      obtain ⟨frame, value, hdeclaring, hsettles⟩ :=
        hscope.declaring? (importedNodes_result_eq_ok_iff.1 hnodes)
      simp only [rulesAt, hdeclaring]
      exact hsettles
    · -- An extend: its exports make the scope longer, and a frame that matches.
      intro span name exports declared hdeclared nodes hnodes
      obtain ⟨depth, bytes, loaded, rfl, hchain, hload, hparse, hnodes⟩ :=
        visitWithin_result_eq_ok_iff.1 hnodes
      obtain ⟨bound, hbound⟩ := ih depth (Nat.lt_succ_self depth) (hscope.within hdeclared) hnodes
      refine ⟨bound, ?_⟩
      intro fuel hfuel
      simp only [rulesAt, hchain, if_false, Traced.result_bind_eq_ok_iff,
        Sources.fetch_result_eq_ok_iff, Sources.read_result_eq_ok_iff]
      exact ⟨bytes, hload, loaded, hparse, hbound fuel hfuel⟩

end Lexical

/-- **Exports are scoped lexically**: what composition gives is what the reference
resolver gives with any fuel that is large enough. -/
theorem compose_lexical (sources : Sources) (limit : Nat) (origin : Option String)
    (nodes : List Node) {result : List Node}
    (h : (compose sources limit origin nodes).result = .ok result) :
    ∃ bound, ∀ fuel, bound ≤ fuel →
      (Lexical.resolve sources fuel origin nodes).result = .ok result :=
  Lexical.composeAll_lexical Lexical.Matches.outermost h

/-- An export whose value imports the name of its sibling, which shadows an outer
export of that name.  The import sees the outer one. -/
theorem compose_lexical_sibling :
    let at' (start : Nat) : Span := ⟨"t", 1, 1, start, start + 1⟩
    let sources : Sources :=
      { load := fun _ => .ok ByteArray.empty
        parse := fun _ label => .ok <|
          if label = "b" then [.imported (at' 0) "y"]
          else [.extend (at' 1) "b"
            [("x", [.raw (at' 2) "inner"]), ("y", [.imported (at' 3) "x"])]]
        rule := ⟨"", ""⟩ }
    let nodes := [.extend (at' 4) "a" [("x", [.raw (at' 5) "outer"])]]
    (compose sources 2 none nodes).result = .ok [.raw (at' 5) "outer"] ∧
      ∃ bound, ∀ fuel, bound ≤ fuel →
        (Lexical.resolve sources fuel none nodes).result = .ok [.raw (at' 5) "outer"] := by
  intro at' sources nodes
  have h : (compose sources 2 none nodes).result = .ok [.raw (at' 5) "outer"] := by cbv
  exact ⟨h, compose_lexical sources 2 none nodes h⟩

end Stencil
