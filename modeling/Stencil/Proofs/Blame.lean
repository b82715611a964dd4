/-
What the faults of rendering are blamed on.

* **`Node.Faults`** — the faults that a node causes by itself, one rule for each
  kind of node and fault;
* **`rendition_blamed`** — rendering a node for plain data gives a plain value, or
  a fault that a node in it causes;
* **`Node.Faults.exists_span`** — the place of a fault is that of a node.

## Design notes

Nodes in values are put out by a function `stored`, about which nothing is known.
Plain data holds no nodes, so the function is never asked, and the induction is on
the tree alone.
-/
import Stencil.Proofs.Occurrence
import Stencil.Proofs.PlainData

namespace Stencil

/-! ### Mismatches -/

theorem fit_error {n : Int} {cause : Mismatch} (h : fit n = .error cause) : cause = .overflow := by
  unfold fit at h
  split at h
  · cases h
  · cases h
    rfl

/-- What may be wrong with the operands of an infix operator. -/
inductive Operator.Rejects (op : Operator) : Mismatch → Prop
  | overflow : Rejects op .overflow
  | divisionByZero : Rejects op .divisionByZero
  | operands (left right : String) : Rejects op (.operands op left right)

theorem applyInt_error {op : Operator} {a b : Int64} {cause : Mismatch}
    (h : applyInt op a b = .error cause) : op.Rejects cause := by
  cases op with
  | plus | minus | multiply => exact fit_error h ▸ .overflow
  | divide =>
    rw [applyInt] at h
    split at h
    · cases h
      exact .divisionByZero
    · exact fit_error h ▸ .overflow
  | modulo =>
    rw [applyInt] at h
    split at h
    · cases h
      exact .divisionByZero
    · cases hfit : fit (a.toInt.tdiv b.toInt) with
      | error cause' =>
        rw [hfit] at h
        cases h
        exact fit_error hfit ▸ .overflow
      | ok quotient =>
        rw [hfit] at h
        exact fit_error h ▸ .overflow
  | _ =>
    cases h
    exact .operands _ _

theorem applyDouble_error {op : Operator} {a b : Float} {cause : Mismatch}
    (h : applyDouble op a b = .error cause) : op.Rejects cause := by
  cases op with
  | plus | minus | multiply | divide | modulo => cases h
  | _ =>
    cases h
    exact .operands _ _

theorem applyArithmetic_error {op : Operator} {left right : Value} {cause : Mismatch}
    (h : applyArithmetic op left right = .error cause) : op.Rejects cause := by
  unfold applyArithmetic at h
  split at h
  · exact applyInt_error (except_map_eq_error h)
  · exact applyDouble_error (except_map_eq_error h)
  · cases h
    exact .operands _ _

/-- An infix operator rejects its operands as those of this operator. -/
theorem applyBinary_error {op : Operator} {left right : Value} {cause : Mismatch}
    (h : applyBinary op left right = .error cause) : op.Rejects cause := by
  cases op with
  | equal | notEqual => cases h
  | less | lessOrEqual | greater | greaterOrEqual =>
    rw [applyBinary] at h
    split at h
    · cases h
    · cases h
      exact .operands _ _
  | plus =>
    rw [applyBinary] at h
    split at h
    · cases h
    · exact applyArithmetic_error h
  | minus | multiply | divide | modulo => exact applyArithmetic_error h
  | not | and | or =>
    cases h
    exact .operands _ _

/-- A sign rejects its operand as one of this sign. -/
theorem applySign_error {op : Operator} {operand : Value} {cause : Mismatch}
    (h : applySign op operand = .error cause) :
    cause = .overflow ∨ ∃ kind, cause = .signed op kind := by
  unfold applySign at h
  split at h
  · cases h
  · exact .inl (fit_error (except_map_eq_error h))
  · cases h
  · cases h
    exact .inr ⟨_, rfl⟩

/-! ### Nodes -/

/-- The faults that a node causes by itself. -/
inductive Node.Faults : Node → RenderFault → Prop
  | unknownTag {span : Span} {name : String} {parameters : List Node} {body : Option (List Node)} :
      Faults (.tag span name parameters body) (.unknownTag name span)
  | tag {span : Span} {name : String} {parameters : List Node} {body : Option (List Node)}
      {error : TagError} : Faults (.tag span name parameters body) (.tag error span)
  | embed {span : Span} {path : Node} : Faults (.embed span path) (.unsupported "embed" span)
  | imported {span : Span} {name : String} :
      Faults (.imported span name) (.unresolved "import" span)
  | extend {span : Span} {path : String} {exports : List (String × List Node)} :
      Faults (.extend span path exports) (.unresolved "extend" span)
  | loopVariable {span : Span} {key data : Node} {body : List Node} :
      (∀ place name, key ≠ .path place [name]) →
      Faults (.loop span key data body) (.mismatch (.loopVariable key.describe) key.span)
  | notIterable {span : Span} {key data : Node} {body : List Node} {kind : String} :
      Faults (.loop span key data body) (.mismatch (.notIterable kind) span)
  | binary {span : Span} {op : Operator} {left right : Node} {cause : Mismatch} :
      op ≠ .and → op ≠ .or → op.Rejects cause →
      Faults (.binary span op left right) (.mismatch cause span)
  | signOverflow {span : Span} {op : Operator} {operand : Node} :
      Faults (.signed span op operand) (.mismatch .overflow span)
  | signed {span : Span} {op : Operator} {operand : Node} {kind : String} :
      Faults (.signed span op operand) (.mismatch (.signed op kind) span)
  | suffixed {span : Span} {op : Operator} {operand : Node} :
      Faults (.suffixed span op operand) (.mismatch (.suffixed op) span)
  | host {span : Span} {node : HostNode} {message : String} :
      Faults (.host span node) (.host node.name message)

/-- A result is good, or it is a fault that some node causes. -/
def Blamed {α : Type} (causes : Node → Prop) (good : α → Prop) : Except RenderFault α → Prop
  | .ok a => good a
  | .error fault => ∃ node, causes node ∧ node.Faults fault

section

variable {α β : Type} {causes : Node → Prop} {good : α → Prop} {good' : β → Prop}

theorem Blamed.bind {x : Except RenderFault α} {f : α → Except RenderFault β}
    (h : Blamed causes good x) (hf : ∀ a, good a → Blamed causes good' (f a)) :
    Blamed causes good' (x >>= f) := by
  cases x with
  | error fault => exact h
  | ok a => exact hf a h

end

/-! ### Rendering -/

/-- Rendering is for plain data, and its tags make no nodes of it. -/
structure Setting.IsPlain (setting : Setting) : Prop where
  context : setting.context.isPlain
  tags : ∀ name handler, setting.tags.find? name = some handler → handler.KeepsPlain

/-- The tags that are always there do for plain data. -/
theorem Setting.isPlain_of_builtin {setting : Setting} (htags : setting.tags = Builtin.registry)
    (hcontext : setting.context.isPlain) : setting.IsPlain := by
  refine ⟨hcontext, ?_⟩
  intro name handler hhandler
  have hfind : Builtin.registry.find? name = some handler := htags ▸ hhandler
  exact Builtin.keepsPlain hfind

variable {causes : Node → Prop} {setting : Setting} {stored : Stores}

/-- In scopes of plain values a node gives a plain value, or a fault that is blamed on one
of some nodes. -/
def RendersPlain (causes : Node → Prop) (setting : Setting) (stored : Stores) (node : Node) :
    Prop :=
  ∀ scopes : Scopes, scopes.IsPlain →
    Blamed causes (fun found => found.toValue.isPlain) (rendition setting stored scopes node)

/-- Plain values are put out without a look at the nodes in values. -/
theorem toText_of_isPlain {found : Rendition} (h : found.toValue.isPlain) (scopes : Scopes) :
    ∃ text, found.toText stored scopes = .ok text := by
  cases found with
  | text text => exact ⟨text, rfl⟩
  | value value =>
    cases value with
    | nodes nodes => exact absurd h Bool.false_ne_true
    | _ => exact ⟨_, rfl⟩

section Sequences

variable {scopes : Scopes} (hscopes : scopes.IsPlain)
include hscopes

theorem renderAll_blamed {nodes : List Node}
    (h : ∀ node ∈ nodes, RendersPlain causes setting stored node) :
    Blamed causes (fun _ => True) (renderAll setting stored scopes nodes) := by
  induction nodes with
  | nil => trivial
  | cons node nodes ih =>
    obtain ⟨hnode, hnodes⟩ := List.forall_mem_cons.1 h
    rw [renderAll]
    refine (hnode scopes hscopes).bind fun found hfound => ?_
    obtain ⟨text, htext⟩ := toText_of_isPlain hfound scopes
    rw [htext]
    exact (ih hnodes).bind fun rest _ => trivial

theorem valuesOf_blamed {nodes : List Node}
    (h : ∀ node ∈ nodes, RendersPlain causes setting stored node) :
    Blamed causes (fun values => ∀ value ∈ values, value.isPlain)
      (valuesOf setting stored scopes nodes) := by
  induction nodes with
  | nil => exact fun value hvalue => absurd hvalue (by simp)
  | cons node nodes ih =>
    obtain ⟨hnode, hnodes⟩ := List.forall_mem_cons.1 h
    rw [valuesOf]
    refine (hnode scopes hscopes).bind fun found hfound => (ih hnodes).bind fun rest hrest => ?_
    exact List.forall_mem_cons.2 ⟨hfound, hrest⟩

theorem renderBranches_blamed {branches : List (Node × List Node)}
    (h : ∀ node ∈ branches.flatMap fun branch => branch.1 :: branch.2,
      RendersPlain causes setting stored node) :
    Blamed causes (fun _ => True) (renderBranches setting stored scopes branches) := by
  induction branches with
  | nil => trivial
  | cons branch branches ih =>
    obtain ⟨condition, body⟩ := branch
    rw [List.flatMap_cons, List.forall_mem_append, List.forall_mem_cons] at h
    obtain ⟨⟨hcondition, hbody⟩, hbranches⟩ := h
    rw [renderBranches]
    refine (hcondition scopes hscopes).bind fun found _ => ?_
    split
    · exact renderAll_blamed hscopes hbody
    · exact ih hbranches

omit hscopes in
theorem concatRounds_blamed {round : Bindings → Except RenderFault String}
    {rounds : List Bindings}
    (h : ∀ bindings ∈ rounds, Blamed causes (fun _ => True) (round bindings)) :
    Blamed causes (fun _ => True) (concatRounds round rounds) := by
  induction rounds with
  | nil => trivial
  | cons bindings rest ih =>
    obtain ⟨hfirst, hrest⟩ := List.forall_mem_cons.1 h
    rw [concatRounds]
    exact hfirst.bind fun first _ => (ih hrest).bind fun rest _ => trivial

/-- The rounds of a loop over plain items. -/
theorem loop_blamed {name : String} {items : List (Option String × Value)} {body : List Node}
    (hitems : ∀ item ∈ items, item.2.isPlain)
    (h : ∀ node ∈ body, RendersPlain causes setting stored node) :
    Blamed causes (fun _ => True)
      (concatRounds (fun bindings => renderAll setting stored (bindings :: scopes) body)
        (loopRounds name items)) := by
  refine concatRounds_blamed fun bindings hbindings => ?_
  have hround : Scopes.IsPlain (bindings :: scopes) :=
    List.forall_mem_cons.2 ⟨isPlain_loopRounds hitems bindings hbindings, hscopes⟩
  exact renderAll_blamed hround h

theorem tag_blamed (hsetting : setting.IsPlain) {span : Span} {name : String}
    {parameters : List Node} {body : Option (List Node)}
    (hself : causes (.tag span name parameters body))
    (hparameters : ∀ node ∈ parameters, RendersPlain causes setting stored node)
    (hbody : ∀ node ∈ body.getD [], RendersPlain causes setting stored node) :
    Blamed causes (fun found => found.toValue.isPlain)
      (rendition setting stored scopes (.tag span name parameters body)) := by
  rw [rendition.eq_def]
  dsimp only
  split
  · -- The tag without a name passes its only parameter on.
    split
    · rename_i parameter
      exact (hparameters parameter (List.mem_singleton_self _) scopes hscopes).bind
        fun found hfound => hfound
    · exact ⟨_, hself, .tag⟩
  · split
    · exact ⟨_, hself, .unknownTag⟩
    · rename_i handler hhandler
      have hcall (values : List Value) (text : Option String)
          (hvalues : ∀ value ∈ values, value.isPlain) :
          Blamed causes (fun found => found.toValue.isPlain)
            (callTag setting handler span name values text) := by
        unfold callTag
        cases hanswer : handler.answer ⟨name, values, text, setting.context, setting.storage⟩ with
        | error error => exact ⟨_, hself, .tag⟩
        | ok value =>
          exact hsetting.tags name handler hhandler _ value hvalues hsetting.context hanswer
      refine (valuesOf_blamed hscopes hparameters).bind fun values hvalues => ?_
      split
      · exact hcall values none hvalues
      · split
        · exact (renderAll_blamed hscopes hbody).bind fun text _ => hcall values (some text) hvalues
        · exact hcall values none hvalues

end Sequences

theorem loopVariable_blamed {span : Span} {key data : Node} {body : List Node}
    (hself : causes (.loop span key data body)) :
    Blamed causes (fun _ => True) (loopVariable key) := by
  unfold loopVariable
  split
  · trivial
  · rename_i hkey
    exact ⟨_, hself, .loopVariable hkey⟩

theorem loopItems_blamed {span : Span} {key data : Node} {body : List Node} {value : Value}
    (hself : causes (.loop span key data body)) (hvalue : value.isPlain) :
    Blamed causes (fun items => ∀ item ∈ items, item.2.isPlain) (loopItems span value) := by
  cases hitems : loopItems span value with
  | ok items => exact isPlain_loopItems hvalue hitems
  | error fault =>
    unfold loopItems at hitems
    split at hitems <;> cases hitems
    exact ⟨_, hself, .notIterable⟩

theorem blame_sign {span : Span} {op : Operator} {operand : Node} {value : Value}
    (hself : causes (.signed span op operand)) :
    Blamed causes (fun value => value.isPlain) (blame span (applySign op value)) := by
  cases hresult : applySign op value with
  | ok result => exact Value.isPlain_of_isScalar (isScalar_applySign hresult)
  | error cause =>
    rcases applySign_error hresult with rfl | ⟨kind, rfl⟩
    · exact ⟨_, hself, .signOverflow⟩
    · exact ⟨_, hself, .signed⟩

theorem blame_binary {span : Span} {op : Operator} {left right : Node} {first second : Value}
    (hself : causes (.binary span op left right)) (hop : op ≠ .and ∧ op ≠ .or) :
    Blamed causes (fun value => value.isPlain) (blame span (applyBinary op first second)) := by
  cases hresult : applyBinary op first second with
  | ok result => exact Value.isPlain_of_isScalar (isScalar_applyBinary hresult)
  | error cause => exact ⟨_, hself, .binary hop.1 hop.2 (applyBinary_error hresult)⟩

/-- **What goes wrong in rendering plain data is blamed on a node.** -/
theorem rendition_blamed (hsetting : setting.IsPlain) (node : Node)
    (hnode : node.Throughout causes) : RendersPlain causes setting stored node := by
  induction node using Node.children_induction with
  | h node ih =>
    have hself : causes node := hnode.self
    have hchildren : ∀ child ∈ node.children, RendersPlain causes setting stored child :=
      fun child hchild => ih child hchild (hnode.child hchild)
    clear ih hnode
    intro scopes hscopes
    cases node with
    | raw => rfl
    | literal span value => exact Value.isPlain_of_isScalar (isScalar_literal value)
    | path span keys => exact isPlain_lookupPath hscopes hsetting.context keys
    | host span node =>
      rw [rendition]
      split
      · rfl
      · exact ⟨_, hself, .host⟩
    | imported => exact ⟨_, hself, .imported⟩
    | extend => exact ⟨_, hself, .extend⟩
    | embed => exact ⟨_, hself, .embed⟩
    | suffixed => exact ⟨_, hself, .suffixed⟩
    | joined span parts =>
      rw [rendition]
      exact (renderAll_blamed hscopes hchildren).bind fun text _ => rfl
    | conditional span branches =>
      rw [rendition]
      exact (renderBranches_blamed hscopes hchildren).bind fun text _ => rfl
    | tag span name parameters body =>
      obtain ⟨hparameters, hbody⟩ := List.forall_mem_append.1 hchildren
      exact tag_blamed hscopes hsetting hself hparameters hbody
    | loop span key data body =>
      obtain ⟨-, hrest⟩ := List.forall_mem_cons.1 hchildren
      obtain ⟨hdata, hbody⟩ := List.forall_mem_cons.1 hrest
      rw [rendition]
      refine (loopVariable_blamed hself).bind fun name _ => ?_
      refine (hdata scopes hscopes).bind fun found hfound => ?_
      refine (loopItems_blamed hself hfound).bind fun items hitems => ?_
      exact (loop_blamed hscopes hitems hbody).bind fun text _ => rfl
    | signed span op operand =>
      rw [rendition]
      refine (hchildren operand (List.mem_singleton_self _) scopes hscopes).bind fun found _ => ?_
      exact (blame_sign hself).bind fun value hvalue => hvalue
    | binary span op left right =>
      obtain ⟨hleft, hright⟩ := List.forall_mem_cons.1 hchildren
      rw [rendition]
      refine (hleft scopes hscopes).bind fun first _ => ?_
      -- Two of the operators may leave their right side alone, and give a truth value.
      split
      · rfl
      · split
        · rfl
        · refine (hright right (List.mem_singleton_self _) scopes hscopes).bind fun second _ => ?_
          split
          · rfl
          · rename_i hop
            exact (blame_binary hself (by simpa using hop)).bind fun value hvalue => hvalue

/-- **So it is for a whole template**, whatever the nodes in values put out. -/
theorem render_blamed (hsetting : setting.IsPlain) (depth : Nat) {nodes : List Node}
    (h : ∀ node ∈ nodes, node.Throughout causes) :
    Blamed causes (fun _ => True) (render setting depth nodes) := by
  have hscopes : Scopes.IsPlain [] := fun bindings hbindings => absurd hbindings (by simp)
  exact renderAll_blamed hscopes fun node hnode => rendition_blamed hsetting node (h node hnode)

end Stencil
