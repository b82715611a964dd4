/-
Rendering as a sequence of calls.

The nodes in values are put out by a function that rendering is given, `stored`.  So
rendering calls that function a number of times, one call after the other, and what it
calls it with depends on the answers so far.  All that is said here of the effect of
`stored` follows from this form.

* **`InStep`** — two renderings that make the same calls, as long as they get the same
  answers;
* **`rendition_inStep`**, **`renderAll_inStep`** — nodes are rendered in step where the same
  variables are visible;
* **`InStep.approximates`** — with better answers the result is better;
* **`InStep.exists_unanswered`** — a result that is always missing is so because of a call
  that is never answered.

## Design notes

An answer is missing if it is the fault for nodes that are nested too deeply.  No node makes
this fault by itself: it comes from a call only.

What the calls can be depends on what is known of the values around.  A `Survey` says what
values nodes can have and what loops can bind, and the calls that are made are those that
it allows (`Survey.Calls`).  If nothing is to be known, it allows everything.
-/
import Stencil.Proofs.Unrolling

namespace Stencil

/-! ### Visible variables -/

/-- The same variables are visible within two nests of loops. -/
def Scopes.Agree (scopes scopes' : Scopes) : Prop :=
  ∀ name, scopes.find? name = scopes'.find? name

namespace Scopes.Agree

variable {scopes scopes' : Scopes}

theorem refl (scopes : Scopes) : scopes.Agree scopes := fun _ => rfl

theorem symm (h : scopes.Agree scopes') : scopes'.Agree scopes := fun name => (h name).symm

theorem trans {scopes'' : Scopes} (h : scopes.Agree scopes') (h' : scopes'.Agree scopes'') :
    scopes.Agree scopes'' := fun name => (h name).trans (h' name)

theorem cons (h : scopes.Agree scopes') (bindings : Bindings) :
    Scopes.Agree (bindings :: scopes) (bindings :: scopes') := by
  intro name
  rw [Scopes.find?, Scopes.find?, h name]

theorem lookupPath_eq (h : scopes.Agree scopes') (context : Value) (keys : List String) :
    lookupPath scopes context keys = lookupPath scopes' context keys := by
  cases keys with
  | nil => rfl
  | cons name keys => rw [lookupPath, lookupPath, h name]

end Scopes.Agree

/-! ### What is known of values -/

/-- The name that a loop gives to its items. -/
def Node.itemName? : Node → Option String
  | .loop _ key _ _ => (loopVariable key).toOption
  | _ => none

/-- What is known of the values that rendering comes across. -/
structure Survey where
  /-- The values that nodes can have. -/
  given : Value → Prop
  /-- The values that loops can bind, under a name. -/
  bound : String → Value → Prop
  /-- The names that loops can give to their items. -/
  named : String → Prop

namespace Survey

/-- Nothing is known: everything may be. -/
def unknown : Survey := ⟨fun _ => True, fun _ _ => True, fun _ => True⟩

/-- What is known holds, and goes on to hold: look-ups, tags and loops do not lead out of it. -/
structure Holds (survey : Survey) (setting : Setting) : Prop where
  scalar : ∀ value, value.isScalar → survey.given value
  context : ∀ keys found, setting.context.lookup keys = some found → survey.given found
  lookup : ∀ name value keys found, survey.bound name value →
    value.lookup keys = some found → survey.given found
  answer : ∀ name handler call value, setting.tags.find? name = some handler →
    handler.answer call = .ok value → survey.given value
  round : ∀ name span data items, survey.named name → survey.given data →
    loopItems span data = .ok items → ∀ bindings ∈ loopRounds name items,
      ∀ entry ∈ bindings, survey.bound entry.1 entry.2

theorem unknown_holds (setting : Setting) : unknown.Holds setting :=
  ⟨fun _ _ => trivial, fun _ _ _ => trivial, fun _ _ _ _ _ _ => trivial,
    fun _ _ _ _ _ _ => trivial, fun _ _ _ _ _ _ _ _ _ _ _ => trivial⟩

variable (survey : Survey)

/-- The variables that are visible are among those that loops can bind. -/
def Covers (scopes : Scopes) : Prop :=
  ∀ name value, scopes.find? name = some value → survey.bound name value

/-- Two nests of loops that are covered, with the same variables visible. -/
def Meets (scopes scopes' : Scopes) : Prop := scopes.Agree scopes' ∧ survey.Covers scopes

/-- The calls that are made, with the same nodes and the same variables visible. -/
def Calls (scopes scopes' : Scopes) (nodes : List Node) : Prop :=
  survey.Meets scopes scopes' ∧ survey.given (.nodes nodes)

/-- The loops of a node give their items names that are known. -/
def Names (node : Node) : Prop :=
  node.Throughout fun inner => ∀ name, inner.itemName? = some name → survey.named name

variable {survey}

theorem Covers.cons {scopes : Scopes} (h : survey.Covers scopes) {bindings : Bindings}
    (hbindings : ∀ entry ∈ bindings, survey.bound entry.1 entry.2) :
    survey.Covers (bindings :: scopes) := by
  intro name value hvalue
  rw [Scopes.find?] at hvalue
  split at hvalue
  · rename_i found hfound
    cases hvalue
    exact hbindings _ (Keyed.mem_of_find? hfound)
  · exact h name value hvalue

/-- What a variable holds is known, and so are the parts of it. -/
theorem given_lookupPath {setting : Setting} (hsurvey : survey.Holds setting) {scopes : Scopes}
    (hscopes : survey.Covers scopes) (keys : List String) :
    survey.given (lookupPath scopes setting.context keys) := by
  have hnull : survey.given .null := hsurvey.scalar _ rfl
  cases keys with
  | nil => exact hnull
  | cons name keys =>
    rw [lookupPath]
    split
    · rename_i value hvalue
      cases hfound : value.lookup keys with
      | none => exact hnull
      | some found => exact hsurvey.lookup name value keys found (hscopes name value hvalue) hfound
    · cases hfound : setting.context.lookup (name :: keys) with
      | none => exact hnull
      | some found => exact hsurvey.context _ found hfound

end Survey

/-! ### Calls -/

/-- Two computations that make calls in step: each of them has a result without any call, or
makes a call, and goes on in step with any text that is the answer to it. -/
inductive InStep (survey : Survey) {α : Type} (good : α → Prop) :
    (Stores → Except RenderFault α) → (Stores → Except RenderFault α) → Prop
  | value {a : α} : good a → InStep survey good (fun _ => .ok a) (fun _ => .ok a)
  | fault {fault : RenderFault} : fault ≠ .tooDeep →
      InStep survey good (fun _ => .error fault) (fun _ => .error fault)
  | call {scopes scopes' : Scopes} {nodes : List Node}
      {next next' : String → Stores → Except RenderFault α} : survey.Calls scopes scopes' nodes →
      (∀ text, InStep survey good (next text) (next' text)) →
      InStep survey good (fun stored => stored scopes nodes >>= fun text => next text stored)
        (fun stored => stored scopes' nodes >>= fun text => next' text stored)

namespace InStep

variable {survey : Survey} {α β : Type} {good : α → Prop} {good' : β → Prop}
  {f g : Stores → Except RenderFault α}

/-- One computation after the other. -/
theorem bind {next next' : α → Stores → Except RenderFault β} (h : InStep survey good f g)
    (hnext : ∀ a, good a → InStep survey good' (next a) (next' a)) :
    InStep survey good' (fun stored => f stored >>= fun a => next a stored)
      (fun stored => g stored >>= fun a => next' a stored) := by
  induction h with
  | value ha => exact hnext _ ha
  | fault hfault => exact .fault hfault
  | call hcall _ ih =>
    -- The call stays in front, and what comes after it grows.
    simp only [bind_assoc]
    exact .call hcall ih

/-- A computation without calls. -/
theorem pure {result : Except RenderFault α} (hgood : Gives good result)
    (hfault : result ≠ .error .tooDeep) :
    InStep survey good (fun _ => result) (fun _ => result) := by
  cases result with
  | ok a => exact .value (hgood a rfl)
  | error fault => exact .fault fun h => hfault (h ▸ rfl)

/-- A computation that only makes a call. -/
theorem single {good : String → Prop} {scopes scopes' : Scopes} {nodes : List Node}
    (h : survey.Calls scopes scopes' nodes) (hgood : ∀ text, good text) :
    InStep survey good (fun stored => stored scopes nodes)
      (fun stored => stored scopes' nodes) := by
  have hcall : InStep survey good (fun stored => stored scopes nodes >>= fun text => .ok text)
      (fun stored => stored scopes' nodes >>= fun text => .ok text) :=
    .call h fun text => .value (hgood text)
  have hbind (x : Except RenderFault String) : (x >>= fun text => .ok text) = x := bind_pure x
  simpa only [hbind] using hcall

end InStep

/-! ### Nodes -/

section

variable {survey : Survey} {setting : Setting} {scopes scopes' : Scopes}

theorem Survey.Meets.cons (h : survey.Meets scopes scopes') {bindings : Bindings}
    (hbindings : ∀ entry ∈ bindings, survey.bound entry.1 entry.2) :
    survey.Meets (bindings :: scopes) (bindings :: scopes') :=
  ⟨h.1.cons bindings, h.2.cons hbindings⟩

/-- A node is rendered in step wherever the same variables are visible, and what it stands
for is known. -/
def RendersInStep (survey : Survey) (setting : Setting) (node : Node) : Prop :=
  ∀ scopes scopes', survey.Meets scopes scopes' →
    InStep survey (fun found => survey.given found.toValue)
      (fun stored => rendition setting stored scopes node)
      (fun stored => rendition setting stored scopes' node)

/-- To put out a value is a call if the value holds nodes, and else none. -/
theorem toText_inStep (h : survey.Meets scopes scopes') {found : Rendition}
    (hfound : survey.given found.toValue) :
    InStep survey (fun _ => True) (fun stored => found.toText stored scopes)
      (fun stored => found.toText stored scopes') := by
  cases found with
  | text text => exact .value trivial
  | value value =>
    cases value with
    | nodes nodes => exact .single ⟨h, hfound⟩ fun _ => trivial
    | _ => exact .value trivial

theorem renderAll_inStep {nodes : List Node} (hmeets : survey.Meets scopes scopes')
    (h : ∀ node ∈ nodes, RendersInStep survey setting node) :
    InStep survey (fun _ => True) (fun stored => renderAll setting stored scopes nodes)
      (fun stored => renderAll setting stored scopes' nodes) := by
  induction nodes with
  | nil =>
    simp only [renderAll]
    exact .value trivial
  | cons node nodes ih =>
    obtain ⟨hnode, hnodes⟩ := List.forall_mem_cons.1 h
    simp only [renderAll]
    refine (hnode scopes scopes' hmeets).bind fun found hfound => ?_
    refine (toText_inStep hmeets hfound).bind fun first _ => ?_
    exact (ih hnodes).bind fun rest _ => .value trivial

theorem valuesOf_inStep {nodes : List Node} (hmeets : survey.Meets scopes scopes')
    (h : ∀ node ∈ nodes, RendersInStep survey setting node) :
    InStep survey (fun _ => True) (fun stored => valuesOf setting stored scopes nodes)
      (fun stored => valuesOf setting stored scopes' nodes) := by
  induction nodes with
  | nil =>
    simp only [valuesOf]
    exact .value trivial
  | cons node nodes ih =>
    obtain ⟨hnode, hnodes⟩ := List.forall_mem_cons.1 h
    simp only [valuesOf]
    refine (hnode scopes scopes' hmeets).bind fun found _ => ?_
    exact (ih hnodes).bind fun rest _ => .value trivial

theorem renderBranches_inStep {branches : List (Node × List Node)}
    (hmeets : survey.Meets scopes scopes')
    (h : ∀ node ∈ branches.flatMap fun branch => branch.1 :: branch.2,
      RendersInStep survey setting node) :
    InStep survey (fun _ => True) (fun stored => renderBranches setting stored scopes branches)
      (fun stored => renderBranches setting stored scopes' branches) := by
  induction branches with
  | nil =>
    simp only [renderBranches]
    exact .value trivial
  | cons branch branches ih =>
    obtain ⟨condition, body⟩ := branch
    rw [List.flatMap_cons, List.forall_mem_append, List.forall_mem_cons] at h
    obtain ⟨⟨hcondition, hbody⟩, hbranches⟩ := h
    simp only [renderBranches]
    refine (hcondition scopes scopes' hmeets).bind fun found _ => ?_
    cases found.toValue.isTruthy with
    | true => exact renderAll_inStep hmeets hbody
    | false => exact ih hbranches

/-- The rounds of a loop, each with its own variables in front. -/
theorem concatRounds_inStep {body : List Node} (hmeets : survey.Meets scopes scopes')
    (h : ∀ node ∈ body, RendersInStep survey setting node) {rounds : List Bindings}
    (hrounds : ∀ bindings ∈ rounds, ∀ entry ∈ bindings, survey.bound entry.1 entry.2) :
    InStep survey (fun _ => True)
      (fun stored => concatRounds
        (fun bindings => renderAll setting stored (bindings :: scopes) body) rounds)
      (fun stored => concatRounds
        (fun bindings => renderAll setting stored (bindings :: scopes') body) rounds) := by
  induction rounds with
  | nil => exact .value trivial
  | cons bindings rounds ih =>
    obtain ⟨hbindings, hrounds⟩ := List.forall_mem_cons.1 hrounds
    simp only [concatRounds]
    refine (renderAll_inStep (hmeets.cons hbindings) h).bind fun first _ => ?_
    exact (ih hrounds).bind fun rest _ => .value trivial

/-! ### Steps without calls -/

theorem callTag_ne_tooDeep (setting : Setting) (handler : TagHandler) (span : Span)
    (name : String) (values : List Value) (body : Option String) :
    callTag setting handler span name values body ≠ .error .tooDeep := by
  unfold callTag
  cases handler.answer ⟨name, values, body, setting.context, setting.storage⟩ <;> rintro ⟨⟩

theorem callTag_inStep (hsurvey : survey.Holds setting) {name : String} {handler : TagHandler}
    (hhandler : setting.tags.find? name = some handler) (span : Span) (values : List Value)
    (body : Option String) :
    InStep survey (fun found => survey.given found.toValue)
      (fun _ => callTag setting handler span name values body)
      (fun _ => callTag setting handler span name values body) := by
  refine .pure (fun found hfound => ?_) (callTag_ne_tooDeep setting handler span name values body)
  obtain ⟨call, value, hanswer, rfl⟩ := callTag_eq_ok hfound
  exact hsurvey.answer name handler call value hhandler hanswer

/-- The outcome of an operator. -/
theorem blame_inStep (hsurvey : survey.Holds setting) {span : Span}
    {result : Except Mismatch Value} (h : ∀ value, result = .ok value → value.isScalar) :
    InStep survey (fun found : Rendition => survey.given found.toValue)
      (fun _ => (do return .value (← blame span result)))
      (fun _ => (do return .value (← blame span result))) := by
  cases result with
  | ok value => exact .value (hsurvey.scalar value (h value rfl))
  | error cause => exact .fault (by simp)

theorem tag_inStep (hsurvey : survey.Holds setting) {span : Span} {name : String}
    {parameters : List Node} {body : Option (List Node)}
    (hparameters : ∀ node ∈ parameters, RendersInStep survey setting node)
    (hbody : ∀ node ∈ body.getD [], RendersInStep survey setting node) :
    RendersInStep survey setting (.tag span name parameters body) := by
  intro scopes scopes' hmeets
  unfold rendition
  by_cases hname : name = ""
  · simp only [if_pos hname]
    rcases parameters with _ | ⟨parameter, _ | ⟨_, _⟩⟩
    · exact .fault (by simp)
    · exact (List.forall_mem_singleton.1 hparameters scopes scopes' hmeets).bind
        fun found hfound => .value hfound
    · exact .fault (by simp)
  · simp only [if_neg hname]
    cases hhandler : setting.tags.find? name with
    | none => exact .fault (by rintro ⟨⟩)
    | some handler =>
      refine (valuesOf_inStep hmeets hparameters).bind fun values _ => ?_
      cases body with
      | none => exact callTag_inStep hsurvey hhandler span values none
      | some nodes =>
        cases handler.readsBody with
        | false => exact callTag_inStep hsurvey hhandler span values none
        | true =>
          refine (renderAll_inStep hmeets hbody).bind fun text _ => ?_
          exact callTag_inStep hsurvey hhandler span values (some text)

theorem binary_inStep (hsurvey : survey.Holds setting) {span : Span} {op : Operator}
    {left right : Node} (hleft : RendersInStep survey setting left)
    (hright : RendersInStep survey setting right) :
    RendersInStep survey setting (.binary span op left right) := by
  intro scopes scopes' hmeets
  simp only [rendition]
  refine (hleft scopes scopes' hmeets).bind fun first _ => ?_
  -- The right side is not rendered where the left one decides.
  split
  · exact .value (hsurvey.scalar _ rfl)
  · split
    · exact .value (hsurvey.scalar _ rfl)
    · refine (hright scopes scopes' hmeets).bind fun second _ => ?_
      split
      · exact .value (hsurvey.scalar _ rfl)
      · exact blame_inStep hsurvey fun value hvalue => isScalar_applyBinary hvalue

theorem loop_inStep (hsurvey : survey.Holds setting) {span : Span} {key data : Node}
    {body : List Node} (hnamed : ∀ name, loopVariable key = .ok name → survey.named name)
    (hdata : RendersInStep survey setting data)
    (hbody : ∀ node ∈ body, RendersInStep survey setting node) :
    RendersInStep survey setting (.loop span key data body) := by
  intro scopes scopes' hmeets
  simp only [rendition]
  have hkey : InStep survey survey.named (fun _ => loopVariable key)
      (fun _ => loopVariable key) := by
    refine .pure hnamed ?_
    unfold loopVariable
    split <;> rintro ⟨⟩
  refine hkey.bind fun name hname => ?_
  refine (hdata scopes scopes' hmeets).bind fun found hfound => ?_
  have hitems : InStep survey (fun items => loopItems span found.toValue = .ok items)
      (fun _ => loopItems span found.toValue) (fun _ => loopItems span found.toValue) := by
    refine .pure (fun items hitems => hitems) ?_
    unfold loopItems
    split <;> rintro ⟨⟩
  refine hitems.bind fun items hitems => ?_
  have hrounds := hsurvey.round name span found.toValue items hname hfound hitems
  refine (concatRounds_inStep hmeets hbody hrounds).bind fun text _ => ?_
  exact .value (hsurvey.scalar _ rfl)

/-- **Nodes are rendered in step** wherever the same variables are visible. -/
theorem rendition_inStep (hsurvey : survey.Holds setting) (node : Node)
    (hnode : survey.Names node) : RendersInStep survey setting node := by
  induction node using Node.children_induction with
  | h node ih =>
    have hself := hnode.self
    have hchildren : ∀ child ∈ node.children, RendersInStep survey setting child :=
      fun child hchild => ih child hchild (hnode.child hchild)
    clear ih hnode
    cases node with
    | tag span name parameters body =>
      obtain ⟨hparameters, hbody⟩ := List.forall_mem_append.1 hchildren
      exact tag_inStep hsurvey hparameters hbody
    | binary span op left right =>
      obtain ⟨hleft, hright⟩ := List.forall_mem_cons.1 hchildren
      exact binary_inStep hsurvey hleft (hright right (List.mem_singleton_self _))
    | loop span key data body =>
      obtain ⟨-, hrest⟩ := List.forall_mem_cons.1 hchildren
      obtain ⟨hdata, hbody⟩ := List.forall_mem_cons.1 hrest
      refine loop_inStep hsurvey (fun name hname => hself name ?_) hdata hbody
      rw [Node.itemName?, hname]
      rfl
    -- The other nodes have a result at once, or that of their parts.
    | raw span text =>
      intro scopes scopes' _
      simp only [rendition]
      exact .value (hsurvey.scalar _ rfl)
    | literal span value =>
      intro scopes scopes' _
      simp only [rendition]
      exact .value (hsurvey.scalar _ (isScalar_literal value))
    | host span node =>
      intro scopes scopes' _
      simp only [rendition]
      cases setting.host node setting.context with
      | ok text => exact .value (hsurvey.scalar _ rfl)
      | error message => exact .fault (by simp)
    | embed | imported | extend | suffixed =>
      intro scopes scopes' _
      simp only [rendition]
      exact .fault (by simp)
    | path span keys =>
      intro scopes scopes' hmeets
      simp only [rendition, ← hmeets.1.lookupPath_eq]
      exact .value (Survey.given_lookupPath hsurvey hmeets.2 keys)
    | joined span parts =>
      intro scopes scopes' hmeets
      simp only [rendition]
      exact (renderAll_inStep hmeets hchildren).bind fun text _ => .value (hsurvey.scalar _ rfl)
    | conditional span branches =>
      intro scopes scopes' hmeets
      simp only [rendition]
      exact (renderBranches_inStep hmeets hchildren).bind
        fun text _ => .value (hsurvey.scalar _ rfl)
    | signed span op operand =>
      intro scopes scopes' hmeets
      simp only [rendition]
      refine (hchildren operand (List.mem_singleton_self _) scopes scopes' hmeets).bind
        fun found _ => ?_
      exact blame_inStep hsurvey fun value hvalue => isScalar_applySign hvalue

end

/-! ### Answers -/

/-- A result is missing, or it is that other one. -/
def Approximates {α : Type} (result result' : Except RenderFault α) : Prop :=
  result = .error .tooDeep ∨ result = result'

theorem Approximates.refl {α : Type} (result : Except RenderFault α) :
    Approximates result result := .inr rfl

/-- Results that approximate each other are the same. -/
theorem Approximates.antisymm {α : Type} {result result' : Except RenderFault α}
    (h : Approximates result result') (h' : Approximates result' result) :
    result = result' := by
  rcases h with h | h
  · rcases h' with h' | h'
    · rw [h, h']
    · exact h'.symm
  · exact h

/-- Nodes are not put out but with a fault where the given variables are visible, and all
others are put out as `answers` says. -/
structure FailsAt (stored answers : Stores) (scopes : Scopes) (nodes : List Node)
    (fault : RenderFault) : Prop where
  here : ∀ inner, inner.Agree scopes → stored inner nodes = .error fault
  elsewhere : ∀ inner others, ¬ (inner.Agree scopes ∧ others = nodes) →
    stored inner others = answers inner others

namespace InStep

variable {survey : Survey} {α : Type} {good : α → Prop} {f g : Stores → Except RenderFault α}

/-- **With better answers the result is better**: it is the same, if it was not missing. -/
theorem approximates (h : InStep survey good f g) {stored stored' : Stores}
    (hcalls : ∀ scopes scopes' nodes, survey.Calls scopes scopes' nodes →
      Approximates (stored scopes nodes) (stored' scopes' nodes)) :
    Approximates (f stored) (g stored') := by
  induction h with
  | value | fault => exact .refl _
  | @call scopes scopes' nodes next next' hcall _ ih =>
    rcases hcalls scopes scopes' nodes hcall with hmissing | hsame
    · -- A call that is not answered is the last one.
      refine .inl ?_
      show stored scopes nodes >>= _ = _
      rw [hmissing]
      rfl
    · show Approximates (stored scopes nodes >>= _) (stored' scopes' nodes >>= _)
      rw [hsame]
      cases stored' scopes' nodes with
      | error fault => exact .refl _
      | ok text => exact ih text

/-- **A result that is missing with all answers is missing because of a call** that none of
them answers.  The calls in front of that one are answered in time, so whatever fault it has
is that of the result. -/
theorem exists_unanswered (h : InStep survey good f g) {answers : Nat → Stores}
    (hanswers : ∀ depth depth' scopes scopes' nodes, depth ≤ depth' → scopes.Agree scopes' →
      Approximates (answers depth scopes nodes) (answers depth' scopes' nodes))
    {limit : Nat} (hmissing : ∀ depth ≥ limit, f (answers depth) = .error .tooDeep) :
    ∃ scopes nodes, survey.Calls scopes scopes nodes ∧
      (∀ depth, answers depth scopes nodes = .error .tooDeep) ∧
      ∃ limit' ≥ limit, ∀ depth ≥ limit', ∀ stored fault,
        FailsAt stored (answers depth) scopes nodes fault → f stored = .error fault := by
  induction h generalizing limit with
  | value => cases hmissing limit (Nat.le_refl limit)
  | fault hfault => exact absurd (Except.error.inj (hmissing limit (Nat.le_refl limit))) hfault
  | @call scopes scopes' nodes next next' hcall _ ih =>
    by_cases hnever : ∀ depth, answers depth scopes nodes = .error .tooDeep
    · -- This is the call, and no call is in front of it.
      refine ⟨scopes, nodes, ⟨⟨.refl scopes, hcall.1.2⟩, hcall.2⟩, hnever, limit,
        Nat.le_refl limit, ?_⟩
      intro depth _ stored fault hfails
      show stored scopes nodes >>= _ = _
      rw [hfails.here scopes (.refl scopes)]
      rfl
    · obtain ⟨first, hfirst⟩ := Classical.not_forall.1 hnever
      -- The call is answered from some depth on, and always alike.
      have hanswer (depth : Nat) (hdepth : first ≤ depth) :
          answers depth scopes nodes = answers first scopes nodes :=
        ((hanswers first depth scopes scopes nodes hdepth (.refl scopes)).resolve_left hfirst).symm
      cases htext : answers first scopes nodes with
      | error fault =>
        have hresult := hmissing (max limit first) (Nat.le_max_left limit first)
        change answers _ scopes nodes >>= _ = _ at hresult
        rw [hanswer _ (Nat.le_max_right limit first), htext] at hresult
        rw [htext] at hfirst
        exact absurd (congrArg Except.error (Except.error.inj hresult)) hfirst
      | ok text =>
        have hnext : ∀ depth ≥ max limit first, next text (answers depth) = .error .tooDeep := by
          intro depth hdepth
          have hresult := hmissing depth (by omega)
          change answers depth scopes nodes >>= _ = _ at hresult
          rwa [hanswer depth (by omega), htext] at hresult
        obtain ⟨inner, others, hinner, hnone, limit', hlimit', hfails⟩ := ih text hnext
        refine ⟨inner, others, hinner, hnone, limit', by omega, ?_⟩
        intro depth hdepth stored fault hfail
        -- The call that fails is another one, as this one is answered.
        have hother : ¬ (scopes.Agree inner ∧ nodes = others) := by
          rintro ⟨hagree, rfl⟩
          have hsame := hanswers first first scopes inner nodes (Nat.le_refl first) hagree
          rcases hsame with hsame | hsame
          · exact hfirst hsame
          · exact hfirst (hsame.trans (hnone first))
        show stored scopes nodes >>= _ = _
        rw [hfail.elsewhere scopes nodes hother, hanswer depth (by omega), htext]
        exact hfails depth hdepth stored fault hfail

end InStep

end Stencil
