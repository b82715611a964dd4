/-
Printing and evaluating.

A node can be put out where it stands, or it can be asked for its value, which is put out
by writing it.  Here each of the two ways is a function of its own, and the two call each
other: the text of a loop needs the value of its data, and the value of a loop is its text.
They agree, and rendering is what both do.

* **`Evaluator.print`**, **`Evaluator.evaluate`** — the two functions;
* **`Evaluator.agrees`** — each of them is `rendition` with what its result is used for;
* **`renderAll_anonymous`** — a tag without a name puts out what its parameter does;
* **`exists_collapse`** — nodes that are collapsed put out what they do in a sequence;
* **`collapse_puts_out_same`** — so it makes no difference where an import is written.

## Design notes

A node either has text of its own, and its value is that text, or it has a value, and its
text is that value written.  So for each kind of node one of the two functions is looked
at, and the other one follows (`Agrees.of_text`, `Agrees.of_value`).

What the nodes in values put out is a parameter of both functions.  The two ways are
compared with the same nodes in values, and no induction on how deep these are nested is
needed but to see that they are printed as they are rendered (`printWithin_eq`).
-/
import Stencil.Composition
import Stencil.Proofs.Unrolling

namespace Stencil

/-- Whether a node puts out text of its own, and not a value that is written. -/
def Node.isText : Node → Bool
  | .raw .. | .joined .. | .conditional .. | .loop .. => true
  | _ => false

namespace Evaluator

section

variable (setting : Setting) (stored : Stores)

mutual

/-- The text that a node puts out where it stands. -/
def print (scopes : Scopes) (node : Node) : Except RenderFault String :=
  match node with
  | .raw _ text => .ok text
  | .joined _ parts => printAll scopes parts
  | .conditional _ branches => printBranches scopes branches
  | .loop span key data body => printLoop scopes span key data body
  | node => do Rendition.write stored scopes (← evaluate scopes node)
termination_by (sizeOf node, 1)

/-- The value of a node. -/
def evaluate (scopes : Scopes) (node : Node) : Except RenderFault Value :=
  match node with
  | .raw _ text => .ok (.string text)
  | .literal _ value => .ok value.toValue
  | .path _ keys => .ok (lookupPath scopes setting.context keys)
  | .signed span op operand => do
    blame span (applySign op (← evaluate scopes operand))
  | .suffixed span op _ => .error (.mismatch (.suffixed op) span)
  | .binary _ .and left right => do
    if (← evaluate scopes left).isTruthy then
      return .bool (← evaluate scopes right).isTruthy
    else return .bool false
  | .binary _ .or left right => do
    if (← evaluate scopes left).isTruthy then return .bool true
    else return .bool (← evaluate scopes right).isTruthy
  | .binary span op left right => do
    let left ← evaluate scopes left
    let right ← evaluate scopes right
    blame span (applyBinary op left right)
  | .tag span name parameters body =>
    if name = "" then
      match parameters with
      | [parameter] => evaluate scopes parameter
      | _ => .error (.tag (.arity name 1 parameters.length) span)
    else
      match setting.tags.find? name with
      | none => .error (.unknownTag name span)
      | some handler => do
        let values ← evaluateAll scopes parameters
        let body ← match body with
          | none => pure none
          | some nodes =>
            if handler.readsBody then some <$> printAll scopes nodes else pure none
        (handler.answer ⟨name, values, body, setting.context, setting.storage⟩).mapError
          fun error => .tag error span
  | .host _ node =>
    match setting.host node setting.context with
    | .ok text => .ok (.string text)
    | .error message => .error (.host node.name message)
  | .joined _ parts => return .string (← printAll scopes parts)
  | .conditional _ branches => return .string (← printBranches scopes branches)
  | .loop span key data body => return .string (← printLoop scopes span key data body)
  | .embed span _ => .error (.unsupported "embed" span)
  | .imported span _ => .error (.unresolved "import" span)
  | .extend span _ _ => .error (.unresolved "extend" span)
termination_by (sizeOf node, 0)

/-- The text of a sequence. -/
def printAll (scopes : Scopes) (nodes : List Node) : Except RenderFault String :=
  match nodes with
  | [] => .ok ""
  | node :: nodes => do
    let first ← print scopes node
    let rest ← printAll scopes nodes
    return first ++ rest
termination_by (sizeOf nodes, 0)

/-- The values of a sequence. -/
def evaluateAll (scopes : Scopes) (nodes : List Node) : Except RenderFault (List Value) :=
  match nodes with
  | [] => .ok []
  | node :: nodes => do
    let first ← evaluate scopes node
    let rest ← evaluateAll scopes nodes
    return first :: rest
termination_by (sizeOf nodes, 0)

/-- The text of the first branch whose condition holds. -/
def printBranches (scopes : Scopes) (branches : List (Node × List Node)) :
    Except RenderFault String :=
  match branches with
  | [] => .ok ""
  | (condition, body) :: branches => do
    if (← evaluate scopes condition).isTruthy then printAll scopes body
    else printBranches scopes branches
termination_by (sizeOf branches, 0)

/-- The texts of the rounds of a loop. -/
def printLoop (scopes : Scopes) (span : Span) (key data : Node) (body : List Node) :
    Except RenderFault String := do
  let name ← loopVariable key
  let items ← loopItems span (← evaluate scopes data)
  concatRounds (fun bindings => printAll (bindings :: scopes) body) (loopRounds name items)
termination_by (sizeOf data + sizeOf body, 0)
decreasing_by
  -- The key is only looked at, so the loop counts for as much as its data and its body.
  · exact .left _ _ (Nat.lt_add_of_pos_right (by cases body <;> simp))
  · exact .left _ _ (Nat.lt_add_of_pos_left (by cases data <;> simp))

end

end

/-! ### Agreement -/

variable {setting : Setting} {stored : Stores}

/-- The two functions agree with what a node stands for, in all scopes. -/
structure Agrees (setting : Setting) (stored : Stores) (node : Node) : Prop where
  print (scopes : Scopes) : print setting stored scopes node =
    (do (← rendition setting stored scopes node).toText stored scopes)
  evaluate (scopes : Scopes) : evaluate setting stored scopes node =
    (do return (← rendition setting stored scopes node).toValue)

theorem printAll_eq {nodes : List Node} (h : ∀ node ∈ nodes, Agrees setting stored node)
    (scopes : Scopes) : printAll setting stored scopes nodes =
      renderAll setting stored scopes nodes := by
  induction nodes with
  | nil =>
    rw [printAll, renderAll]
  | cons node nodes ih =>
    obtain ⟨hnode, hnodes⟩ := List.forall_mem_cons.1 h
    rw [printAll, renderAll, hnode.print, ih hnodes, bind_assoc]

theorem evaluateAll_eq {nodes : List Node} (h : ∀ node ∈ nodes, Agrees setting stored node)
    (scopes : Scopes) : evaluateAll setting stored scopes nodes =
      valuesOf setting stored scopes nodes := by
  induction nodes with
  | nil =>
    rw [evaluateAll, valuesOf]
  | cons node nodes ih =>
    obtain ⟨hnode, hnodes⟩ := List.forall_mem_cons.1 h
    rw [evaluateAll, valuesOf, hnode.evaluate, ih hnodes, bind_assoc]
    simp only [pure_bind]

theorem printBranches_eq {branches : List (Node × List Node)}
    (h : ∀ node ∈ branches.flatMap fun branch => branch.1 :: branch.2, Agrees setting stored node)
    (scopes : Scopes) : printBranches setting stored scopes branches =
      renderBranches setting stored scopes branches := by
  induction branches with
  | nil =>
    rw [printBranches, renderBranches]
  | cons branch branches ih =>
    obtain ⟨condition, body⟩ := branch
    rw [List.flatMap_cons, List.forall_mem_append, List.forall_mem_cons] at h
    obtain ⟨⟨hcondition, hbody⟩, hbranches⟩ := h
    rw [printBranches, renderBranches, hcondition.evaluate, ih hbranches, printAll_eq hbody,
      bind_assoc]
    simp only [pure_bind]

/-- To write the value of a node is to put out what it stands for. -/
theorem write_toValue (found : Rendition) (scopes : Scopes) :
    Rendition.write stored scopes found.toValue = found.toText stored scopes := by
  cases found <;> rfl

/-- A node that stands for a value is put out by writing it. -/
theorem print_eq_write {node : Node} (h : node.isText = false) (scopes : Scopes) :
    print setting stored scopes node =
      (do Rendition.write stored scopes (← evaluate setting stored scopes node)) := by
  unfold print
  cases node with
  | raw | joined | conditional | loop => cases h
  | _ => rfl

/-- A node whose value is written. -/
theorem Agrees.of_value {node : Node} (hkind : node.isText = false)
    (hevaluate : ∀ scopes, Evaluator.evaluate setting stored scopes node =
      (do return (← rendition setting stored scopes node).toValue)) :
    Agrees setting stored node where
  print scopes := by
    rw [print_eq_write hkind, hevaluate, bind_assoc]
    simp only [pure_bind, write_toValue]
  evaluate := hevaluate

/-- A node that puts out text of its own. -/
theorem Agrees.of_text {node : Node} (text : Scopes → Except RenderFault String)
    (hprint : ∀ scopes, Evaluator.print setting stored scopes node = text scopes)
    (hevaluate : ∀ scopes, Evaluator.evaluate setting stored scopes node =
      (do return .string (← text scopes)))
    (hrendition : ∀ scopes, rendition setting stored scopes node =
      (do return .text (← text scopes))) : Agrees setting stored node where
  print scopes := by
    rw [hprint, hrendition, bind_assoc]
    simp only [pure_bind]
    exact (bind_pure _).symm
  evaluate scopes := by
    rw [hevaluate, hrendition, bind_assoc]
    simp only [pure_bind]
    rfl

/-- The answer of a handler as a value. -/
theorem callTag_toValue (handler : TagHandler) (span : Span) (name : String)
    (values : List Value) (body : Option String) :
    (do return (← callTag setting handler span name values body).toValue) =
      (handler.answer ⟨name, values, body, setting.context, setting.storage⟩).mapError
        fun error => RenderFault.tag error span := by
  unfold callTag
  cases handler.answer ⟨name, values, body, setting.context, setting.storage⟩ <;> rfl

/-- A tag is evaluated with the values of its parameters and the text of its body. -/
theorem evaluate_tag {span : Span} {name : String} {parameters : List Node}
    {body : Option (List Node)}
    (hparameters : ∀ node ∈ parameters, Agrees setting stored node)
    (hbody : ∀ node ∈ body.getD [], Agrees setting stored node) (scopes : Scopes) :
    evaluate setting stored scopes (.tag span name parameters body) =
      (do return (← rendition setting stored scopes (.tag span name parameters body)).toValue) := by
  unfold evaluate rendition
  by_cases hname : name = ""
  · rw [if_pos hname, if_pos hname]
    -- Without a name, the tag has the value of its only parameter.
    rcases parameters with _ | ⟨parameter, _ | ⟨_, _⟩⟩
    · rfl
    · dsimp only
      rw [(List.forall_mem_singleton.1 hparameters).evaluate, bind_assoc]
      simp only [pure_bind, Rendition.toValue]
    · rfl
  · rw [if_neg hname, if_neg hname]
    cases setting.tags.find? name with
    | none => rfl
    | some handler =>
      -- With a name, the parameters come first, and then the body if the handler reads it.
      dsimp only
      rw [evaluateAll_eq hparameters, bind_assoc]
      refine except_bind_congr fun values _ => ?_
      cases body with
      | none =>
        rw [callTag_toValue]
        rfl
      | some nodes =>
        have hnodes : ∀ node ∈ nodes, Agrees setting stored node := hbody
        dsimp only
        by_cases hreads : handler.readsBody
        · rw [if_pos hreads, if_pos hreads, printAll_eq hnodes, bind_assoc]
          simp only [callTag_toValue]
          cases renderAll setting stored scopes nodes <;> rfl
        · rw [if_neg hreads, if_neg hreads, callTag_toValue]
          rfl

/-- The right side of an operator is evaluated unless the left side decides. -/
theorem evaluate_binary {span : Span} {op : Operator} {left right : Node}
    (hleft : Agrees setting stored left) (hright : Agrees setting stored right)
    (scopes : Scopes) :
    evaluate setting stored scopes (.binary span op left right) =
      (do return (← rendition setting stored scopes (.binary span op left right)).toValue) := by
  rw [rendition, bind_assoc]
  cases op with
  | and =>
    rw [evaluate, hleft.evaluate, hright.evaluate, bind_assoc]
    refine except_bind_congr fun found _ => ?_
    rw [pure_bind]
    cases found.toValue.isTruthy with
    | false => rfl
    | true => simp [Rendition.toValue]
  | or =>
    rw [evaluate, hleft.evaluate, hright.evaluate, bind_assoc]
    refine except_bind_congr fun found _ => ?_
    rw [pure_bind]
    cases found.toValue.isTruthy with
    | false => simp [Rendition.toValue]
    | true => rfl
  | _ =>
    rw [evaluate, hleft.evaluate, hright.evaluate, bind_assoc]
    · simp [Rendition.toValue]
    all_goals simp

/-- **Printing and evaluating are one function**, for every kind of node. -/
theorem agrees (node : Node) : Agrees setting stored node := by
  induction node using Node.children_induction with
  | h node ih =>
    cases node with
    | raw span text =>
      refine .of_text (fun _ => .ok text) ?_ ?_ ?_
      all_goals intro scopes
      · rw [print]
      · rw [evaluate]
        rfl
      · rw [rendition]
        rfl
    | joined span parts =>
      have hparts : ∀ part ∈ parts, Agrees setting stored part := ih
      refine .of_text (fun scopes => renderAll setting stored scopes parts) ?_ ?_ ?_
      all_goals intro scopes
      · rw [print, printAll_eq hparts]
      · rw [evaluate, printAll_eq hparts]
      · rw [rendition]
    | conditional span branches =>
      refine .of_text (fun scopes => renderBranches setting stored scopes branches) ?_ ?_ ?_
      all_goals intro scopes
      · rw [print, printBranches_eq ih]
      · rw [evaluate, printBranches_eq ih]
      · rw [rendition]
    | loop span key data body =>
      obtain ⟨-, hrest⟩ := List.forall_mem_cons.1 ih
      obtain ⟨hdata, hbody⟩ := List.forall_mem_cons.1 hrest
      refine .of_text (fun scopes => printLoop setting stored scopes span key data body) ?_ ?_ ?_
      all_goals intro scopes
      · rw [print]
      · rw [evaluate]
      · rw [rendition, printLoop, hdata.evaluate]
        simp only [concatRounds_congr fun bindings _ => printAll_eq hbody (bindings :: scopes),
          bind_assoc, pure_bind]
    | literal span value =>
      refine .of_value rfl fun scopes => ?_
      rw [evaluate, rendition]
      rfl
    | path span keys =>
      refine .of_value rfl fun scopes => ?_
      rw [evaluate, rendition]
      rfl
    | host span node =>
      refine .of_value rfl fun scopes => ?_
      rw [evaluate, rendition]
      cases setting.host node setting.context <;> rfl
    | embed | imported | extend | suffixed =>
      refine .of_value rfl fun scopes => ?_
      rw [evaluate, rendition]
      rfl
    | tag span name parameters body =>
      obtain ⟨hparameters, hbody⟩ := List.forall_mem_append.1 ih
      exact .of_value rfl (evaluate_tag hparameters hbody)
    | signed span op operand =>
      have hoperand := ih operand (List.mem_singleton_self _)
      refine .of_value rfl fun scopes => ?_
      rw [evaluate, rendition, hoperand.evaluate]
      simp only [bind_assoc, pure_bind, Rendition.toValue, bind_pure]
    | binary span op left right =>
      obtain ⟨hleft, hright⟩ := List.forall_mem_cons.1 ih
      exact .of_value rfl (evaluate_binary hleft (hright right (List.mem_singleton_self _)))

/-! ### Nodes in values -/

/-- Print nodes whose values hold nodes nested at most so deep. -/
def printWithin (setting : Setting) : Nat → Stores
  | 0, _, _ => .error .tooDeep
  | depth + 1, scopes, nodes => printAll setting (printWithin setting depth) scopes nodes

/-- The nodes in values are printed as they are rendered. -/
theorem printWithin_eq (setting : Setting) (depth : Nat) :
    printWithin setting depth = renderWithin setting depth := by
  induction depth with
  | zero => rfl
  | succ depth ih =>
    funext scopes nodes
    rw [printWithin, renderWithin, ih]
    exact printAll_eq (fun node _ => agrees node) scopes

/-- So are whole templates. -/
theorem printAll_eq_render (setting : Setting) (depth : Nat) (nodes : List Node) :
    printAll setting (printWithin setting depth) [] nodes = render setting depth nodes := by
  rw [printWithin_eq]
  exact printAll_eq (fun node _ => agrees node) []

end Evaluator

/-! ### Collapsed nodes -/

section

variable {setting : Setting} {stored : Stores} {scopes : Scopes}

theorem renderAll_singleton (node : Node) :
    renderAll setting stored scopes [node] =
      (do (← rendition setting stored scopes node).toText stored scopes) := by
  rw [renderAll]
  refine except_bind_congr fun found _ => ?_
  cases found.toText stored scopes with
  | error fault => rfl
  | ok text =>
    show Except.ok (text ++ "") = _
    rw [String.append_empty]

theorem renderAll_append (front back : List Node) :
    renderAll setting stored scopes (front ++ back) = (do
      let first ← renderAll setting stored scopes front
      let rest ← renderAll setting stored scopes back
      return first ++ rest) := by
  induction front with
  | nil =>
    rw [List.nil_append, renderAll]
    cases renderAll setting stored scopes back with
    | error fault => rfl
    | ok text =>
      show _ = Except.ok ("" ++ text)
      rw [String.empty_append]
  | cons node front ih =>
    rw [List.cons_append, renderAll, renderAll, ih]
    simp only [bind_assoc, pure_bind, String.append_assoc]

/-- A tag without a name puts out what its parameter does. -/
theorem renderAll_anonymous (span : Span) (node : Node) (body : Option (List Node)) :
    renderAll setting stored scopes [.tag span "" [node] body] =
      renderAll setting stored scopes [node] := by
  rw [renderAll_singleton, renderAll_singleton, rendition, if_pos rfl]
  simp only [bind_assoc, pure_bind]
  refine except_bind_congr fun found _ => ?_
  exact Evaluator.write_toValue found scopes

/-- Several nodes that are joined put out what they do one after the other. -/
theorem renderAll_joined (span : Span) (parts : List Node) :
    renderAll setting stored scopes [.joined span parts] =
      renderAll setting stored scopes parts := by
  rw [renderAll_singleton, rendition]
  simp only [bind_assoc, pure_bind]
  exact bind_pure _

end

/-- Nodes that are collapsed put out the same. -/
theorem exists_collapse {nodes : List Node} (h : nodes ≠ []) (span : Span) :
    ∃ node, collapse span nodes = pure node ∧ ∀ setting stored scopes,
      renderAll setting stored scopes [node] = renderAll setting stored scopes nodes := by
  rcases nodes with _ | ⟨node, _ | ⟨second, nodes⟩⟩
  · exact absurd rfl h
  · exact ⟨node, rfl, fun _ _ _ => rfl⟩
  · exact ⟨_, rfl, fun _ _ _ => renderAll_joined span _⟩

/-- An import in a tag without a name puts out what it does where the export is spliced. -/
theorem exists_imported {scope : Scope} {name : String} {value : List Node}
    (hvalue : Keyed.find? name scope = some value) (hne : value ≠ []) (visit : Visit)
    (span place : Span) :
    ∃ node, composeNode visit scope (.tag span "" [.imported place name] none) = pure [node] ∧
      composeNode visit scope (.imported place name) = pure value ∧
      ∀ setting stored scopes, renderAll setting stored scopes [node] =
        renderAll setting stored scopes value := by
  have himported : composeNode visit scope (.imported place name) = pure value := by
    rw [composeNode, importedNodes, hvalue]
  obtain ⟨node, hcollapse, hrender⟩ := exists_collapse hne place
  have hparameters : composeEach visit scope [.imported place name] = pure [node] := by
    rw [composeEach, himported]
    show Traced.bind (collapse place value) _ = _
    rw [hcollapse]
    rfl
  refine ⟨.tag span "" [node] none, ?_, himported, ?_⟩
  · rw [composeNode, hparameters]
    rfl
  · intro setting stored scopes
    rw [renderAll_anonymous, hrender]

/-- **Printing a node and writing its value agree, and collapsing changes nothing.**  A node
puts out what its value does when it is written, and so does a tag without a name around it.
An export that is collapsed to one node puts out what it does where it is spliced, whatever
stands in front of it and behind it.  Where one of two ways fails, the other one does with the
same error. -/
theorem collapse_puts_out_same (setting : Setting) (depth : Nat) (scopes : Scopes) :
    let stored := renderWithin setting depth
    (∀ node span body,
      renderAll setting stored scopes [node] = Evaluator.print setting stored scopes node ∧
      Evaluator.print setting stored scopes node = (do
        Rendition.write stored scopes (← Evaluator.evaluate setting stored scopes node)) ∧
      renderAll setting stored scopes [.tag span "" [node] body] =
        renderAll setting stored scopes [node]) ∧
    ∀ (visit : Visit) (scope : Scope) (name : String) (value : List Node),
      Keyed.find? name scope = some value → value ≠ [] → ∀ (span place : Span),
        ∃ node, composeNode visit scope (.tag span "" [.imported place name] none) = pure [node] ∧
          composeNode visit scope (.imported place name) = pure value ∧
          ∀ before after, renderAll setting stored scopes (before ++ [node] ++ after) =
            renderAll setting stored scopes (before ++ value ++ after) := by
  intro stored
  constructor
  · intro node span body
    have hnode := @Evaluator.agrees setting stored node
    refine ⟨?_, ?_, renderAll_anonymous span node body⟩
    · rw [renderAll_singleton, hnode.print]
    · rw [hnode.print, hnode.evaluate, bind_assoc]
      simp only [pure_bind, Evaluator.write_toValue]
  · intro visit scope name value hvalue hne span place
    obtain ⟨node, hcollapsed, hspliced, hrender⟩ := exists_imported hvalue hne visit span place
    refine ⟨node, hcollapsed, hspliced, fun before after => ?_⟩
    rw [renderAll_append, renderAll_append before, renderAll_append, renderAll_append before,
      hrender]

/-- An export of raw text and of a variable that holds nodes, collapsed and spliced. -/
theorem collapse_puts_out_same_joined :
    let part : List Node := [.literal default (.int 1), .path default ["y"]]
    let context : Value := .dictionary [("x", .nodes part), ("y", .string "b")]
    let setting : Setting := ⟨Builtin.registry, fun _ _ => .ok "", context, .empty⟩
    let value : List Node := [.raw default "a", .path default ["x"]]
    let visit : Visit := fun span _ _ => .fail (.tooDeep span)
    renderAll setting (renderWithin setting 1) [] value = .ok "a1b" ∧
      Keyed.find? "e" [("e", value)] = some value ∧ value ≠ [] ∧
      ∃ node, composeNode visit [("e", value)] (.tag default "" [.imported default "e"] none) =
          pure [node] ∧
        composeNode visit [("e", value)] (.imported default "e") = pure value ∧
        ∀ before after,
          renderAll setting (renderWithin setting 1) [] (before ++ [node] ++ after) =
            renderAll setting (renderWithin setting 1) [] (before ++ value ++ after) := by
  intro part context setting value visit
  have hvalue : Keyed.find? "e" [("e", value)] = some value := rfl
  have hne : value ≠ [] := List.cons_ne_nil _ _
  exact ⟨rfl, hvalue, hne, (collapse_puts_out_same setting 1 []).2 visit _ "e" value hvalue hne
    default default⟩

end Stencil
