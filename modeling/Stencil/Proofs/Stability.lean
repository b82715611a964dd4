/-
Compositions with more exports and a shorter chain.

What is composed stays the same if more exports are visible, and if fewer
templates are being composed around it.

* **`visitWithin_within`** — a template that can be visited can be visited with a
  larger scope and a smaller chain;
* **`Node.Replaced`**, **`composeNode_replaced`** — a node in place of another that
  gives the same, somewhere in a tree;
* **`composeAll_stable`** — larger scopes and smaller chains change nothing, and
  neither does an export under a fresh name that is added to an extend.

## Design notes

An extend puts the exports that it declares in front of those that it sees.  So
what is in scope in two runs differs behind the same declarations, however deep
extends are nested, and a name that a template imports is declared in both runs
or visible outside in both.

The exports of an extend are composed where it stands.  All extends that are
written in one sequence, at any depth, see the same exports.
-/
import Mathlib
import Stencil.Proofs.Comparison
import Stencil.Proofs.Visit

namespace Stencil

/-! ### Computations that give more -/

/-- What the first computation gives, the second one gives as well. -/
def Traced.Within {α : Type} (x y : Traced α) : Prop := ∀ a, x.result = .ok a → y.result = .ok a

namespace Traced.Within

variable {α β : Type} {x y : Traced α}

theorem refl (x : Traced α) : x.Within x := fun _ h => h

theorem bind {f g : α → Traced β} (h : x.Within y) (hfg : ∀ a, (f a).Within (g a)) :
    (x >>= f).Within (y >>= g) := by
  intro b hb
  obtain ⟨a, ha, hb⟩ := Traced.result_bind_eq_ok_iff.1 hb
  exact Traced.result_bind_eq_ok_iff.2 ⟨a, h a ha, hfg a b hb⟩

end Traced.Within

/-! ### Larger scopes -/

/-- Whatever is visible in the first scope is the same in the second one. -/
def Scope.Within (scope scope' : Scope) : Prop :=
  ∀ name nodes, Keyed.find? name scope = some nodes → Keyed.find? name scope' = some nodes

/-- The same declarations in front of two scopes. -/
theorem Scope.Within.declare {scope scope' : Scope} (h : scope.Within scope') (declared : Scope) :
    Scope.Within (declared ++ scope) (declared ++ scope') := by
  intro name nodes hnodes
  rw [Keyed.find?_append, Option.or_eq_some_iff] at hnodes ⊢
  rcases hnodes with hdeclared | ⟨hnone, hvisible⟩
  · exact .inl hdeclared
  · exact .inr ⟨hnone, h name nodes hvisible⟩

/-- The first visit can be made in larger scopes as the second one. -/
def Visit.Within (visit visit' : Visit) : Prop :=
  ∀ span name scope scope', Scope.Within scope scope' →
    (visit span name scope).Within (visit' span name scope')

/-- What is composed is the same with larger scopes. -/
theorem composeAll_within {visit visit' : Visit} {scope scope' : Scope}
    (hvisit : visit.Within visit') (hscope : scope.Within scope') (nodes : List Node) :
    (composeAll visit scope nodes).Within (composeAll visit' scope' nodes) := by
  have himports : (Comparison.success id).RelatesImports (fun _ => True) scope scope' := by
    intro span name found hfound
    have hvisible : Keyed.find? name scope = some found := importedNodes_result_eq_ok_iff.1 hfound
    exact ⟨found, importedNodes_result_eq_ok_iff.2 (hscope name found hvisible), .refl found⟩
  intro result hresult
  obtain ⟨found, hfound, hsame⟩ := (Comparison.success id).composeAll_of_visits himports
    (fun span name _ _ declared found hfound =>
      ⟨found, hvisit span name _ _ (hscope.declare declared) found hfound, .refl found⟩)
    result hresult
  rw [hfound, hsame.eq]

/-- **A template that can be visited can be visited with more exports and fewer templates
around it**, and gives the same. -/
theorem visitWithin_within (sources : Sources) {depth depth' : Nat} (hdepth : depth ≤ depth')
    {chain chain' : List String} (hchain : chain' ⊆ chain) :
    (visitWithin sources depth chain).Within (visitWithin sources depth' chain') := by
  induction depth generalizing depth' chain chain' with
  | zero =>
    intro span name scope scope' _ result hresult
    cases hresult
  | succ depth ih =>
    intro span name scope scope' hscope result hresult
    obtain ⟨_, bytes, loaded, ⟨⟩, hnew, hload, hparse, hcomposed⟩ :=
      visitWithin_result_eq_ok_iff.1 hresult
    obtain ⟨depth', rfl⟩ : ∃ fewer, depth' = fewer + 1 := ⟨depth' - 1, by omega⟩
    -- The template comes to the end of both chains.
    have hlonger : chain' ++ [sources.rule.normalize name] ⊆
        chain ++ [sources.rule.normalize name] := by
      intro entry hentry
      rcases List.mem_append.1 hentry with hentry | hentry
      · exact List.mem_append_left _ (hchain hentry)
      · exact List.mem_append_right _ hentry
    have hvisit := ih (Nat.le_of_succ_le_succ hdepth) hlonger
    refine visitWithin_result_eq_ok_iff.2 ⟨depth', bytes, loaded, rfl, ?_, hload, hparse, ?_⟩
    · exact fun hmem => hnew (hchain hmem)
    · exact composeAll_within hvisit hscope loaded result hcomposed

/-! ### Nodes in place of others -/

/-- The second node is the first one with `new` where `old` stands once, at any depth. -/
inductive Node.Replaced (old new : Node) : Node → Node → Prop
  | self : Replaced old new old new
  | parameter {span : Span} {name : String} {front back : List Node} {child child' : Node}
      {body : Option (List Node)} : Replaced old new child child' →
      Replaced old new (.tag span name (front ++ child :: back) body)
        (.tag span name (front ++ child' :: back) body)
  | tagBody {span : Span} {name : String} {parameters front back : List Node}
      {child child' : Node} : Replaced old new child child' →
      Replaced old new (.tag span name parameters (some (front ++ child :: back)))
        (.tag span name parameters (some (front ++ child' :: back)))
  | target {span : Span} {child child' : Node} : Replaced old new child child' →
      Replaced old new (.embed span child) (.embed span child')
  | exported {span : Span} {path name : String} {front back : List Node} {child child' : Node}
      {exports exports' : List (String × List Node)} : Replaced old new child child' →
      Replaced old new
        (.extend span path (exports ++ (name, front ++ child :: back) :: exports'))
        (.extend span path (exports ++ (name, front ++ child' :: back) :: exports'))
  | condition {span : Span} {child child' : Node} {body : List Node}
      {branches branches' : List (Node × List Node)} : Replaced old new child child' →
      Replaced old new (.conditional span (branches ++ (child, body) :: branches'))
        (.conditional span (branches ++ (child', body) :: branches'))
  | branch {span : Span} {condition child child' : Node} {front back : List Node}
      {branches branches' : List (Node × List Node)} : Replaced old new child child' →
      Replaced old new
        (.conditional span (branches ++ (condition, front ++ child :: back) :: branches'))
        (.conditional span (branches ++ (condition, front ++ child' :: back) :: branches'))
  | part {span : Span} {front back : List Node} {child child' : Node} :
      Replaced old new child child' →
      Replaced old new (.joined span (front ++ child :: back))
        (.joined span (front ++ child' :: back))
  | key {span : Span} {child child' data : Node} {body : List Node} :
      Replaced old new child child' →
      Replaced old new (.loop span child data body) (.loop span child' data body)
  | data {span : Span} {key child child' : Node} {body : List Node} :
      Replaced old new child child' →
      Replaced old new (.loop span key child body) (.loop span key child' body)
  | loopBody {span : Span} {key data child child' : Node} {front back : List Node} :
      Replaced old new child child' →
      Replaced old new (.loop span key data (front ++ child :: back))
        (.loop span key data (front ++ child' :: back))
  | left {span : Span} {op : Operator} {child child' right : Node} :
      Replaced old new child child' →
      Replaced old new (.binary span op child right) (.binary span op child' right)
  | right {span : Span} {op : Operator} {left child child' : Node} :
      Replaced old new child child' →
      Replaced old new (.binary span op left child) (.binary span op left child')
  | signed {span : Span} {op : Operator} {child child' : Node} :
      Replaced old new child child' →
      Replaced old new (.signed span op child) (.signed span op child')
  | suffixed {span : Span} {op : Operator} {child child' : Node} :
      Replaced old new child child' →
      Replaced old new (.suffixed span op child) (.suffixed span op child')

/-- The second sequence is the first one with `new` where `old` stands once, at any depth. -/
inductive Node.ReplacedIn (old new : Node) : List Node → List Node → Prop
  | at {front back : List Node} {top top' : Node} : Replaced old new top top' →
      ReplacedIn old new (front ++ top :: back) (front ++ top' :: back)

theorem Node.Replaced.span_eq {old new top top' : Node} (h : Replaced old new top top')
    (hspan : old.span = new.span) : top.span = top'.span := by
  cases h with
  | self => exact hspan
  | _ => rfl

section Replaced

variable {visit : Visit} {scope : Scope} {child child' : Node}

/-- A node that gives the same, in a place that takes one. -/
theorem single_within {α : Type} (hspan : child.span = child'.span)
    (h : (composeNode visit scope child).Within (composeNode visit scope child'))
    {f g : Node → Traced α} (hfg : ∀ node, (f node).Within (g node)) :
    (composeNode visit scope child >>= fun nodes => collapse child.span nodes >>= f).Within
      (composeNode visit scope child' >>= fun nodes => collapse child'.span nodes >>= g) := by
  rw [hspan]
  exact h.bind fun nodes => (Traced.Within.refl _).bind hfg

theorem composeAll_replace
    (h : (composeNode visit scope child).Within (composeNode visit scope child'))
    (front back : List Node) :
    (composeAll visit scope (front ++ child :: back)).Within
      (composeAll visit scope (front ++ child' :: back)) := by
  induction front with
  | nil => exact h.bind fun _ => .refl _
  | cons node front ih => exact (Traced.Within.refl _).bind fun _ => ih.bind fun _ => .refl _

theorem composeEach_replace (hspan : child.span = child'.span)
    (h : (composeNode visit scope child).Within (composeNode visit scope child'))
    (front back : List Node) :
    (composeEach visit scope (front ++ child :: back)).Within
      (composeEach visit scope (front ++ child' :: back)) := by
  induction front with
  | nil => exact single_within hspan h fun _ => .refl _
  | cons node front ih =>
    exact single_within rfl (.refl _) fun _ => ih.bind fun _ => .refl _

theorem composeBranches_condition (hspan : child.span = child'.span)
    (h : (composeNode visit scope child).Within (composeNode visit scope child'))
    (body : List Node) (branches branches' : List (Node × List Node)) :
    (composeBranches visit scope (branches ++ (child, body) :: branches')).Within
      (composeBranches visit scope (branches ++ (child', body) :: branches')) := by
  induction branches with
  | nil => exact single_within hspan h fun _ => .refl _
  | cons branch branches ih =>
    exact single_within rfl (.refl _) fun _ => (Traced.Within.refl _).bind fun _ =>
      ih.bind fun _ => .refl _

theorem composeBranches_body {body body' : List Node}
    (h : (composeAll visit scope body).Within (composeAll visit scope body'))
    (condition : Node) (branches branches' : List (Node × List Node)) :
    (composeBranches visit scope (branches ++ (condition, body) :: branches')).Within
      (composeBranches visit scope (branches ++ (condition, body') :: branches')) := by
  induction branches with
  | nil => exact single_within rfl (.refl _) fun _ => h.bind fun _ => .refl _
  | cons branch branches ih =>
    exact single_within rfl (.refl _) fun _ => (Traced.Within.refl _).bind fun _ =>
      ih.bind fun _ => .refl _

theorem composeExports_replace {value value' : List Node}
    (h : (composeAll visit scope value).Within (composeAll visit scope value'))
    (name : String) (exports exports' : List (String × List Node)) :
    (composeExports visit scope (exports ++ (name, value) :: exports')).Within
      (composeExports visit scope (exports ++ (name, value') :: exports')) := by
  induction exports with
  | nil => exact h.bind fun _ => .refl _
  | cons entry exports ih => exact (Traced.Within.refl _).bind fun _ => ih.bind fun _ => .refl _

end Replaced

/-- **A node that gives what another gives can stand in its place**, wherever that is. -/
theorem composeNode_replaced {visit : Visit} {scope : Scope} {old new : Node}
    (hspan : old.span = new.span)
    (h : (composeNode visit scope old).Within (composeNode visit scope new))
    {top top' : Node} (hreplaced : Node.Replaced old new top top') :
    (composeNode visit scope top).Within (composeNode visit scope top') := by
  induction hreplaced with
  | self => exact h
  | @parameter span name front back child child' body hchild ih =>
    have hparameters := composeEach_replace (hchild.span_eq hspan) ih front back
    cases body with
    | none =>
      rw [composeNode, composeNode]
      exact hparameters.bind fun _ => .refl _
    | some nodes =>
      rw [composeNode, composeNode]
      exact hparameters.bind fun _ => .refl _
  | tagBody _ ih =>
    rw [composeNode, composeNode]
    exact (Traced.Within.refl _).bind fun _ => (composeAll_replace ih _ _).bind fun _ => .refl _
  | exported _ ih =>
    rw [composeNode, composeNode]
    exact (composeExports_replace (composeAll_replace ih _ _) _ _ _).bind fun _ => .refl _
  | condition hchild ih =>
    rw [composeNode, composeNode]
    exact (composeBranches_condition (hchild.span_eq hspan) ih _ _ _).bind fun _ => .refl _
  | branch _ ih =>
    rw [composeNode, composeNode]
    exact (composeBranches_body (composeAll_replace ih _ _) _ _ _).bind fun _ => .refl _
  | part _ ih =>
    rw [composeNode, composeNode]
    exact (composeAll_replace ih _ _).bind fun _ => .refl _
  | loopBody _ ih =>
    rw [composeNode, composeNode]
    exact single_within rfl (.refl _) fun _ => single_within rfl (.refl _) fun _ =>
      (composeAll_replace ih _ _).bind fun _ => .refl _
  | data hchild ih | right hchild ih =>
    rw [composeNode, composeNode]
    exact single_within rfl (.refl _) fun _ =>
      single_within (hchild.span_eq hspan) ih fun _ => .refl _
  | target hchild ih | key hchild ih | left hchild ih | signed hchild ih | suffixed hchild ih =>
    rw [composeNode, composeNode]
    exact single_within (hchild.span_eq hspan) ih fun _ => .refl _

/-! ### One more export -/

/-- An export under a new name is composed beside the others. -/
theorem composeExports_insert {visit : Visit} {scope declared : Scope} {name : String}
    {value nodes : List Node} (hvalue : (composeAll visit scope value).result = .ok nodes)
    {exports : List (String × List Node)} (hnew : Keyed.find? name exports = none)
    (h : (composeExports visit scope exports).result = .ok declared) :
    Keyed.find? name declared = none ∧
      (composeExports visit scope (Keyed.insert name value exports)).result =
        .ok (Keyed.insert name nodes declared) := by
  induction exports generalizing declared with
  | nil =>
    cases h
    refine ⟨rfl, ?_⟩
    rw [Keyed.insert, composeExports]
    exact Traced.result_bind_eq_ok_iff.2 ⟨nodes, hvalue, rfl⟩
  | cons entry exports ih =>
    obtain ⟨key, first⟩ := entry
    have hkey : key ≠ name := by
      intro hkey
      rw [Keyed.find?, if_pos hkey] at hnew
      cases hnew
    rw [Keyed.find?, if_neg hkey] at hnew
    rw [composeExports] at h
    obtain ⟨found, hfound, h⟩ := Traced.result_bind_eq_ok_iff.1 h
    obtain ⟨rest, hrest, h⟩ := Traced.result_bind_eq_ok_iff.1 h
    obtain rfl : (key, found) :: rest = declared := Except.ok.inj h
    obtain ⟨hnone, hinserted⟩ := ih hnew hrest
    refine ⟨by rw [Keyed.find?, if_neg hkey, hnone], ?_⟩
    rw [Keyed.insert, Keyed.insert, if_neg hkey, if_neg hkey]
    by_cases hlt : name < key
    · -- The new export stands in front of all the others.
      rw [if_pos hlt, if_pos hlt, composeExports]
      refine Traced.result_bind_eq_ok_iff.2 ⟨nodes, hvalue, ?_⟩
      refine Traced.result_bind_eq_ok_iff.2 ⟨(key, found) :: rest, ?_, rfl⟩
      rw [composeExports]
      refine Traced.result_bind_eq_ok_iff.2 ⟨found, hfound, ?_⟩
      exact Traced.result_bind_eq_ok_iff.2 ⟨rest, hrest, rfl⟩
    · rw [if_neg hlt, if_neg hlt, composeExports]
      refine Traced.result_bind_eq_ok_iff.2 ⟨found, hfound, ?_⟩
      exact Traced.result_bind_eq_ok_iff.2 ⟨_, hinserted, rfl⟩

/-- A declaration under a name that is not visible hides nothing. -/
theorem Scope.within_insert {declared scope : Scope} {name : String}
    (hdeclared : Keyed.find? name declared = none) (hscope : Keyed.find? name scope = none)
    (nodes : List Node) :
    Scope.Within (declared ++ scope) (Keyed.insert name nodes declared ++ scope) := by
  intro other found hfound
  rw [Keyed.find?_append] at hfound ⊢
  by_cases hother : other = name
  · rw [hother, hdeclared, hscope] at hfound
    cases hfound
  · rw [Keyed.find?_insert_of_ne hother, hfound]

/-- An extend with one more export, whose name is not visible where the extend stands. -/
theorem extend_within_insert {visit : Visit} (hvisit : visit.Within visit) {scope : Scope}
    {name : String} {value nodes : List Node}
    (hvalue : (composeAll visit scope value).result = .ok nodes)
    (hscope : Keyed.find? name scope = none) {exports : List (String × List Node)}
    (hnew : Keyed.find? name exports = none) (span : Span) (path : String) :
    (composeNode visit scope (.extend span path exports)).Within
      (composeNode visit scope (.extend span path (Keyed.insert name value exports))) := by
  intro result hresult
  rw [composeNode] at hresult ⊢
  obtain ⟨declared, hdeclared, hresult⟩ := Traced.result_bind_eq_ok_iff.1 hresult
  obtain ⟨hnone, hinserted⟩ := composeExports_insert hvalue hnew hdeclared
  refine Traced.result_bind_eq_ok_iff.2 ⟨_, hinserted, ?_⟩
  exact hvisit span path _ _ (Scope.within_insert hnone hscope nodes) result hresult

/-- **What is composed is the same in a larger scope and under a shorter chain**, whatever the
templates are.  In particular it does not matter if one of the extends in it, at any depth,
gets an export that can be composed there under a name that nobody uses: neither does this
extend declare the name nor is it visible where the extend stands. -/
theorem composeAll_stable (sources : Sources) {depth : Nat} {chain : List String} {scope : Scope}
    {nodes result : List Node}
    (h : (composeAll (visitWithin sources depth chain) scope nodes).result = .ok result) :
    (∀ depth' chain' scope', depth ≤ depth' → (∀ path ∈ chain', path ∈ chain) →
      (∀ name found, Keyed.find? name scope = some found → Keyed.find? name scope' = some found) →
      (composeAll (visitWithin sources depth' chain') scope' nodes).result = .ok result) ∧
    ∀ span path exports name value composed nodes',
      Node.ReplacedIn (.extend span path exports)
        (.extend span path (Keyed.insert name value exports)) nodes nodes' →
      Keyed.find? name exports = none → Keyed.find? name scope = none →
      (composeAll (visitWithin sources depth chain) scope value).result = .ok composed →
      (composeAll (visitWithin sources depth chain) scope nodes').result = .ok result := by
  constructor
  · intro depth' chain' scope' hdepth hchain hscope
    have hvisit := visitWithin_within sources hdepth hchain
    exact composeAll_within hvisit hscope nodes result h
  · intro span path exports name value composed nodes' hreplaced hnew hfresh hvalue
    have hvisit := visitWithin_within sources (Nat.le_refl depth) (List.Subset.refl chain)
    have hextend := extend_within_insert hvisit hvalue hfresh hnew span path
    have hspan : (Node.extend span path exports).span =
        (Node.extend span path (Keyed.insert name value exports)).span := rfl
    obtain ⟨hreplaced⟩ := hreplaced
    exact composeAll_replace (composeNode_replaced hspan hextend hreplaced) _ _ result h

/-- A template imports what an extend in the body of a tag declares and what is visible around
it.  More exports around it, fewer templates on the chain and one more export of the extend,
which imports something itself, leave the result as it is. -/
theorem composeAll_stable_body :
    let at' (start : Nat) : Span := ⟨"t", 1, 1, start, start + 1⟩
    let sources : Sources :=
      { load := fun _ => .ok ByteArray.empty
        parse := fun _ _ => .ok [.imported (at' 0) "a", .imported (at' 1) "o"]
        rule := ⟨"", ""⟩ }
    let scope : Scope := [("o", [.raw (at' 2) "outer"])]
    let extend (exports : List (String × List Node)) : Node := .extend (at' 3) "p" exports
    let page (inner : Node) : List Node := [.tag (at' 4) "box" [] (some [inner])]
    let declared : List (String × List Node) := [("a", [.raw (at' 5) "A"])]
    let added : List Node := [.imported (at' 6) "o"]
    let result : List Node :=
      [.tag (at' 4) "box" [] (some [.raw (at' 5) "A", .raw (at' 2) "outer"])]
    let run (chain : List String) (scope : Scope) (nodes : List Node) :=
      (composeAll (visitWithin sources 1 chain) scope nodes).result
    run ["x", "y"] scope (page (extend declared)) = .ok result ∧
      run ["y"] (("n", []) :: scope) (page (extend declared)) = .ok result ∧
      run ["x", "y"] scope (page (extend [("a", [.raw (at' 5) "A"]), ("b", added)])) =
        .ok result := by
  intro at' sources scope extend page declared added result run
  have h : run ["x", "y"] scope (page (extend declared)) = .ok result := by
    show (composeAll (visitWithin sources 1 ["x", "y"]) scope [.tag _ _ _ _]).result = _
    cbv
  obtain ⟨hlarger, hadded⟩ := composeAll_stable sources h
  refine ⟨h, ?_, ?_⟩
  · refine hlarger 1 ["y"] (("n", []) :: scope) (Nat.le_refl 1) (by simp) ?_
    intro name found hfound
    by_cases hname : "n" = name
    · rw [← hname] at hfound
      cases hfound
    · rw [Keyed.find?, if_neg hname]
      exact hfound
  · -- The extend is all that stands in the body, and the tag all that stands on the page.
    have hbody : Node.Replaced (extend declared) (extend (Keyed.insert "b" added declared))
        (.tag (at' 4) "box" [] (some ([] ++ extend declared :: [])))
        (.tag (at' 4) "box" [] (some ([] ++ extend (Keyed.insert "b" added declared) :: []))) :=
      .tagBody .self
    have hpage : Node.ReplacedIn (extend declared) (extend (Keyed.insert "b" added declared))
        ([] ++ page (extend declared))
        ([] ++ page (extend (Keyed.insert "b" added declared))) := .at hbody
    have hinsert : Keyed.insert "b" added declared = [("a", [.raw (at' 5) "A"]), ("b", added)] := by
      cbv
    rw [← hinsert]
    exact hadded _ _ _ _ _ [.raw (at' 2) "outer"] _ hpage (by cbv) (by cbv) (by cbv)

end Stencil
