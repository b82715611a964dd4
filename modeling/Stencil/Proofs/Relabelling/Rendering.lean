/-
Rendering under other labels.

Nodes with other labels in their spans put out the same text, or fail for the
same cause at the same place.

* **`renderAll_relabel`** — the text of a sequence;
* **`render_relabel`** — the text of a composed template.

## Design notes

The nodes in values keep their labels when those of a template change.  So an
error is either found in the template, and then its label changes, or it is
found in a value and stays the same (`SameOutcome`).
-/
import Stencil.Proofs.Relabelling
import Stencil.Render

namespace Stencil

/-- An error whose place has another label. -/
def RenderFault.relabel (f : String → String) : RenderFault → RenderFault
  | unknownTag name span => .unknownTag name (span.relabel f)
  | unresolved kind span => .unresolved kind (span.relabel f)
  | unsupported kind span => .unsupported kind (span.relabel f)
  | mismatch cause span => .mismatch cause (span.relabel f)
  | tag error span => .tag error (span.relabel f)
  | host node message => .host node message
  | tooDeep => .tooDeep

@[simp] theorem RenderFault.message_relabel (f : String → String) (fault : RenderFault) :
    (fault.relabel f).message = fault.message := by
  cases fault <;> rfl

@[simp] theorem RenderFault.span?_relabel (f : String → String) (fault : RenderFault) :
    (fault.relabel f).span? = fault.span?.map (Span.relabel f) := by
  cases fault <;> rfl

variable {f : String → String}

/-- The same result, or the same error, with the label of its place changed if it
is one that changes. -/
def SameOutcome (f : String → String) {α : Type} : Except RenderFault α → Except RenderFault α →
    Prop
  | .ok a, .ok b => a = b
  | .error fault, .error fault' => fault' = fault ∨ fault' = fault.relabel f
  | _, _ => False

namespace SameOutcome

theorem refl {α : Type} (x : Except RenderFault α) : SameOutcome f x x := by
  cases x with
  | ok a => exact rfl
  | error fault => exact .inl rfl

theorem relabelled {α : Type} {fault fault' : RenderFault} (h : fault' = fault.relabel f) :
    SameOutcome f (.error fault : Except RenderFault α) (.error fault') := .inr h

theorem bind {α β : Type} {x y : Except RenderFault α} {g h : α → Except RenderFault β}
    (hxy : SameOutcome f x y) (hgh : ∀ a, SameOutcome f (g a) (h a)) :
    SameOutcome f (x >>= g) (y >>= h) := by
  match x, y with
  | .ok a, .ok b =>
    obtain rfl : a = b := hxy
    exact hgh a
  | .error fault, .error fault' => exact hxy

end SameOutcome

/-! ### Parts of nodes -/

theorem blame_relabel {α : Type} (span : Span) (result : Except Mismatch α) :
    SameOutcome f (blame span result) (blame (span.relabel f) result) := by
  cases result with
  | ok a => exact rfl
  | error cause => exact .relabelled rfl

theorem loopItems_relabel (span : Span) (value : Value) :
    SameOutcome f (loopItems span value) (loopItems (span.relabel f) value) := by
  cases value with
  | array | dictionary | null => exact rfl
  | _ => exact .relabelled rfl

theorem loopVariable_relabel (key : Node) :
    SameOutcome f (loopVariable key) (loopVariable (key.relabel f)) := by
  unfold loopVariable
  split
  · exact rfl
  · rename_i hkey
    split
    · -- No other node becomes a plain name.
      rename_i hkey'
      cases key with
      | tag span name parameters body => cases body <;> cases hkey'
      | path span keys =>
        cases hkey'
        exact absurd rfl (hkey _ _)
      | _ => cases hkey'
    · rw [Node.describe_relabel, Node.span_relabel]
      exact .relabelled rfl

theorem callTag_relabel (setting : Setting) (handler : TagHandler) (span : Span) (name : String)
    (values : List Value) (body : Option String) :
    SameOutcome f (callTag setting handler span name values body)
      (callTag setting handler (span.relabel f) name values body) := by
  unfold callTag
  cases handler.answer ⟨name, values, body, setting.context, setting.storage⟩ with
  | ok value => exact rfl
  | error error => exact .relabelled rfl

theorem concatRounds_relabel {round round' : Bindings → Except RenderFault String}
    (h : ∀ bindings, SameOutcome f (round bindings) (round' bindings)) (rounds : List Bindings) :
    SameOutcome f (concatRounds round rounds) (concatRounds round' rounds) := by
  induction rounds with
  | nil => exact rfl
  | cons bindings rest ih =>
    exact (h bindings).bind fun first => ih.bind fun rest => .refl (pure (first ++ rest))

/-! ### Nodes -/

variable {setting : Setting} {stored : Stores}

/-- A node stands for the same under other labels, in all scopes. -/
def SameRendition (f : String → String) (setting : Setting) (stored : Stores) (node : Node) :
    Prop :=
  ∀ scopes, SameOutcome f (rendition setting stored scopes node)
    (rendition setting stored scopes (node.relabel f))

theorem renderAll_sameOutcome {nodes : List Node}
    (h : ∀ node ∈ nodes, SameRendition f setting stored node) (scopes : Scopes) :
    SameOutcome f (renderAll setting stored scopes nodes)
      (renderAll setting stored scopes (nodes.map (Node.relabel f))) := by
  induction nodes with
  | nil => exact rfl
  | cons node nodes ih =>
    rw [List.forall_mem_cons] at h
    rw [List.map_cons, renderAll, renderAll]
    refine (h.1 scopes).bind fun first => ?_
    refine (SameOutcome.refl (first.toText stored scopes)).bind fun text => ?_
    exact (ih h.2).bind fun rest => .refl (pure (text ++ rest))

theorem valuesOf_sameOutcome {nodes : List Node}
    (h : ∀ node ∈ nodes, SameRendition f setting stored node) (scopes : Scopes) :
    SameOutcome f (valuesOf setting stored scopes nodes)
      (valuesOf setting stored scopes (nodes.map (Node.relabel f))) := by
  induction nodes with
  | nil => exact rfl
  | cons node nodes ih =>
    rw [List.forall_mem_cons] at h
    rw [List.map_cons, valuesOf, valuesOf]
    refine (h.1 scopes).bind fun first => ?_
    exact (ih h.2).bind fun rest => .refl (pure (first.toValue :: rest))

theorem renderBranches_sameOutcome {branches : List (Node × List Node)}
    (h : ∀ node ∈ branches.flatMap fun branch => branch.1 :: branch.2,
      SameRendition f setting stored node) (scopes : Scopes) :
    SameOutcome f (renderBranches setting stored scopes branches)
      (renderBranches setting stored scopes (Node.relabelBranches f branches)) := by
  induction branches with
  | nil => exact rfl
  | cons branch branches ih =>
    obtain ⟨condition, body⟩ := branch
    rw [List.flatMap_cons, List.forall_mem_append, List.forall_mem_cons] at h
    rw [Node.relabelBranches, Node.relabelAll_eq_map, renderBranches, renderBranches]
    refine (h.1.1 scopes).bind fun value => ?_
    by_cases htruthy : value.toValue.isTruthy
    · rw [if_pos htruthy, if_pos htruthy]
      exact renderAll_sameOutcome h.1.2 scopes
    · rw [if_neg htruthy, if_neg htruthy]
      exact ih h.2

theorem tag_sameOutcome (span : Span) (name : String) {parameters : List Node}
    {body : Option (List Node)}
    (hparameters : ∀ node ∈ parameters, SameRendition f setting stored node)
    (hbody : ∀ node ∈ body.getD [], SameRendition f setting stored node) (scopes : Scopes) :
    SameOutcome f (rendition setting stored scopes (.tag span name parameters body))
      (rendition setting stored scopes
        (.tag (span.relabel f) name (parameters.map (Node.relabel f))
          (body.map (List.map (Node.relabel f))))) := by
  unfold rendition
  by_cases hname : name = ""
  · -- The tag without a name passes its only parameter on.
    rw [if_pos hname, if_pos hname]
    match parameters with
    | [] => exact .relabelled rfl
    | [parameter] =>
      exact (hparameters parameter (List.mem_singleton_self _) scopes).bind fun value => .refl _
    | first :: second :: rest =>
      refine .relabelled ?_
      rw [RenderFault.relabel, List.length_map]
  · rw [if_neg hname, if_neg hname]
    cases setting.tags.find? name with
    | none => exact .relabelled rfl
    | some handler =>
      refine (valuesOf_sameOutcome hparameters scopes).bind fun values => ?_
      cases body with
      | none => exact callTag_relabel setting handler span name values none
      | some nodes =>
        -- The body matters to handlers that read it only.
        rw [Option.map_some]
        dsimp only
        by_cases hreads : handler.readsBody
        · rw [if_pos hreads, if_pos hreads]
          refine (renderAll_sameOutcome hbody scopes).bind fun text => ?_
          exact callTag_relabel setting handler span name values (some text)
        · rw [if_neg hreads, if_neg hreads]
          exact callTag_relabel setting handler span name values none

theorem rendition_relabel (node : Node) : SameRendition f setting stored node := by
  induction node using Node.children_induction with
  | h node ih =>
    intro scopes
    cases node with
    | raw | literal | path => exact rfl
    | imported | extend | embed | suffixed => exact .relabelled rfl
    | host span node => exact .refl _
    | joined span parts =>
      rw [Node.relabel, Node.relabelAll_eq_map, rendition, rendition]
      exact (renderAll_sameOutcome ih scopes).bind fun text => .refl _
    | conditional span branches =>
      rw [Node.relabel, rendition, rendition]
      exact (renderBranches_sameOutcome ih scopes).bind fun text => .refl _
    | loop span key data body =>
      rw [Node.children, List.forall_mem_cons, List.forall_mem_cons] at ih
      obtain ⟨-, hdata, hbody⟩ := ih
      rw [Node.relabel, Node.relabelAll_eq_map, rendition, rendition]
      refine (loopVariable_relabel key).bind fun name => (hdata scopes).bind fun data => ?_
      refine (loopItems_relabel span data.toValue).bind fun items => ?_
      have hrounds := concatRounds_relabel (fun bindings =>
        renderAll_sameOutcome hbody (bindings :: scopes)) (loopRounds name items)
      exact hrounds.bind fun text => .refl _
    | tag span name parameters body =>
      rw [Node.children, List.forall_mem_append] at ih
      rw [Node.relabel_tag]
      exact tag_sameOutcome span name ih.1 ih.2 scopes
    | signed span op operand =>
      rw [Node.relabel, rendition, rendition]
      refine (ih operand (by simp [Node.children]) scopes).bind fun value => ?_
      exact (blame_relabel span (applySign op value.toValue)).bind fun value => .refl _
    | binary span op left right =>
      have hleft := ih left (by simp [Node.children]) scopes
      have hright := ih right (by simp [Node.children]) scopes
      rw [Node.relabel, rendition, rendition]
      refine hleft.bind fun left => ?_
      split
      · exact .refl _
      · split
        · exact .refl _
        · refine hright.bind fun right => ?_
          split
          · exact .refl _
          · exact (blame_relabel span _).bind fun value => .refl _

/-- Nodes under other labels put out the same. -/
theorem renderAll_relabel (scopes : Scopes) (nodes : List Node) :
    SameOutcome f (renderAll setting stored scopes nodes)
      (renderAll setting stored scopes (nodes.map (Node.relabel f))) :=
  renderAll_sameOutcome (fun node _ => rendition_relabel node) scopes

/-- A composed template under other labels puts out the same. -/
theorem render_relabel (depth : Nat) (nodes : List Node) :
    SameOutcome f (render setting depth nodes)
      (render setting depth (nodes.map (Node.relabel f))) :=
  renderAll_relabel [] nodes

end Stencil
