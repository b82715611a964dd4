/-
A reader reads what the grammar derives.

* **`Reader.readAll`** — reading a list of tokens without getting stuck;
* **`Reader.step_of_operand`** — behind an operand only a dot and an opening
  parenthesis depend on what the operand is;
* **`reads_of_derives`** — the tokens of a phrase take a reader that can begin it
  to one that holds the expressions of the phrase.

## Design notes

A reader completes an infix expression when the operator behind it comes, so at
the end of a phrase the last expressions are still apart, in `lefts` and `signs`.
What the reader holds is what `reduce` and `applySigns` make of them
(`ReadsLevel`).
-/
import Stencil.Proofs.Grammar

namespace Stencil

variable {source : Source}

/-! ### Runs that are not stuck -/

namespace Reader

/-- Read a list of tokens; `none` if the reader gets stuck on one. -/
def readAll (source : Source) (reader : Reader) (lexemes : List Lexeme) : Option Reader :=
  lexemes.foldlM (step source) reader

@[simp] theorem readAll_nil (reader : Reader) : readAll source reader [] = some reader := rfl

@[simp] theorem readAll_cons (reader : Reader) (lexeme : Lexeme) (lexemes : List Lexeme) :
    readAll source reader (lexeme :: lexemes) =
      (reader.step source lexeme).bind fun next => next.readAll source lexemes := rfl

theorem readAll_append (reader : Reader) (before after : List Lexeme) :
    readAll source reader (before ++ after) =
      (readAll source reader before).bind fun next => next.readAll source after :=
  List.foldlM_append

/-- A run that is not stuck has read all tokens. -/
theorem run_eq_iff {reader next : Reader} {lexemes : List Lexeme} :
    reader.run source lexemes = (next, none) ↔ readAll source reader lexemes = some next := by
  induction lexemes generalizing reader with
  | nil => simp [run]
  | cons lexeme lexemes ih =>
    rw [run, readAll_cons]
    cases reader.step source lexeme with
    | none => simp
    | some step => exact ih

end Reader

/-! ### Completing operands -/

theorem applySigns_append (signs signs' : List (Operator × Nat)) (node : Node) :
    applySigns source (signs ++ signs') node =
      applySigns source signs' (applySigns source signs node) := by
  induction signs generalizing node with
  | nil => rfl
  | cons sign signs ih =>
    obtain ⟨op, start⟩ := sign
    rw [List.cons_append, applySigns, applySigns, ih]

/-- Nothing is completed by an operator that is stronger than those that wait. -/
theorem reduce_of_lt {strength : Nat} {lefts : List (Node × Operator)}
    (h : ∀ left ∈ lefts, left.2.strength < strength) (node : Node) :
    reduce source strength lefts node = (lefts, node) := by
  cases lefts with
  | nil => rfl
  | cons left lefts =>
    obtain ⟨node', op⟩ := left
    have hop : op.strength < strength := h _ (List.mem_cons_self ..)
    rw [reduce, if_neg (by omega)]

/-- Completing for a stronger operator first makes no difference. -/
theorem reduce_reduce {strength strength' : Nat} (h : strength ≤ strength')
    {lefts lefts' : List (Node × Operator)} {node node' : Node}
    (hreduce : reduce source strength' lefts node = (lefts', node')) :
    reduce source strength lefts node = reduce source strength lefts' node' := by
  induction lefts generalizing node with
  | nil =>
    cases hreduce
    rfl
  | cons left lefts ih =>
    obtain ⟨node₁, op⟩ := left
    rw [reduce] at hreduce
    split at hreduce
    · rw [reduce, if_pos (by omega)]
      exact ih hreduce
    · cases hreduce
      rfl

/-! ### Steps behind an operand -/

namespace Reader

variable {reader : Reader} {node : Node} {lexeme : Lexeme}

/-- Behind an operand a token is read in one way, unless it can be part of it. -/
theorem step_of_operand (h : reader.operand? source = some node) (hdot : lexeme.token ≠ .dot)
    (hopening : lexeme.token ≠ .opening) :
    reader.step source lexeme = reader.proceed source node lexeme := by
  obtain ⟨progress, layer, outer⟩ := reader
  cases progress with
  | wanting | dotted => cases h
  | operand operand =>
    cases h
    rfl
  | path keys start stop =>
    cases h
    unfold step
    dsimp only
    split
    · exact absurd ‹_› hdot
    · exact absurd ‹_› hopening
    · rfl

theorem step_operator (h : reader.operand? source = some node) {op : Operator}
    (htoken : lexeme.token = .operator op) (hop : 0 < op.strength) :
    reader.step source lexeme =
      some ⟨.wanting, reader.layer.infixOp source node op, reader.outer⟩ := by
  rw [step_of_operand h (by simp [htoken]) (by simp [htoken]), proceed, htoken]
  exact if_pos hop

theorem step_comma (h : reader.operand? source = some node) (htoken : lexeme.token = .comma)
    (hitems : reader.layer.surrounding.takesItems) :
    reader.step source lexeme =
      some ⟨.wanting, reader.layer.endItem source node, reader.outer⟩ := by
  rw [step_of_operand h (by simp [htoken]) (by simp [htoken]), proceed, htoken]
  exact if_pos hitems

theorem step_closing (h : reader.operand? source = some node) (htoken : lexeme.token = .closing) :
    reader.step source lexeme = reader.close source node lexeme.stop := by
  rw [step_of_operand h (by simp [htoken]) (by simp [htoken]), proceed, htoken]

/-- A call is closed with the items that have been read. -/
theorem step_closing_call {progress : Progress} {layer parent : Layer} {outer : List Layer}
    {name : String} {start : Nat} {items : List Node}
    (hsurrounding : layer.surrounding = .call name start)
    (hitems : items? source ⟨progress, layer, []⟩ = some items)
    (htoken : lexeme.token = .closing) :
    step source ⟨progress, layer, parent :: outer⟩ lexeme =
      closeCall source ⟨progress, layer, parent :: outer⟩ items lexeme.stop := by
  cases progress with
  | wanting =>
    simp only [items?, operand?, Option.ite_none_right_eq_some, Bool.and_eq_true] at hitems
    obtain ⟨⟨-, hatItem⟩, hitems⟩ := hitems
    rw [step, begin, htoken]
    dsimp only
    rw [if_pos hatItem, Option.some.inj hitems]
  | dotted => cases hitems
  | path | operand =>
    rw [step_closing rfl htoken, close]
    dsimp only
    rw [hsurrounding]
    dsimp only
    rw [← Option.some.inj hitems]

end Reader

/-! ### What is held at the end of a phrase -/

/-- A layer in which an expression at a level may begin. -/
structure Layer.Awaits (layer : Layer) (level : Nat) : Prop where
  signs : layer.signs = []
  lefts : ∀ left ∈ layer.lefts, left.2.strength ≤ level

/-- The tokens are read as an operand. -/
def ReadsOperand (source : Source) (lexemes : List Lexeme) (e : Node) : Prop :=
  ∀ layer outer, ∃ progress node,
    Reader.readAll source ⟨.wanting, layer, outer⟩ lexemes = some ⟨progress, layer, outer⟩ ∧
    Reader.operand? source ⟨progress, layer, outer⟩ = some node ∧ node.bare = e

/-- The tokens are read as an operand behind signs. -/
def ReadsSigned (source : Source) (lexemes : List Lexeme) (e : Node) : Prop :=
  ∀ layer outer, ∃ progress node signs,
    Reader.readAll source ⟨.wanting, layer, outer⟩ lexemes =
      some ⟨progress, { layer with signs := signs ++ layer.signs }, outer⟩ ∧
    Reader.operand? source ⟨progress, layer, outer⟩ = some node ∧
    (applySigns source signs node).bare = e

/-- The tokens are read as an expression of a level. -/
def ReadsLevel (source : Source) (level : Nat) (lexemes : List Lexeme) (e : Node) : Prop :=
  ∀ layer outer, layer.Awaits level → ∃ progress node lefts signs whole,
    Reader.readAll source ⟨.wanting, layer, outer⟩ lexemes =
      some ⟨progress, { layer with lefts, signs }, outer⟩ ∧
    Reader.operand? source ⟨progress, layer, outer⟩ = some node ∧
    reduce source (level + 1) lefts (applySigns source signs node) = (layer.lefts, whole) ∧
    whole.bare = e

/-- The tokens are read as further items, the last of which is not ended yet. -/
def ReadsSeries (source : Source) (lexemes : List Lexeme) (es : List Node) : Prop :=
  ∀ layer outer, layer.surrounding.takesItems → layer.lefts = [] → layer.signs = [] →
    ∃ progress node layer', ∃ items : List Node,
    Reader.readAll source ⟨.wanting, layer, outer⟩ lexemes = some ⟨progress, layer', outer⟩ ∧
    Reader.operand? source ⟨progress, layer', outer⟩ = some node ∧
    layer'.endItem source node = { layer with items := items.reverse ++ layer.items } ∧
    items.map Node.bare = es

/-- The tokens are read as all items of a list. -/
def ReadsItems (source : Source) (lexemes : List Lexeme) (es : List Node) : Prop :=
  ∀ surrounding outer, surrounding.takesItems → ∃ progress layer' items,
    Reader.readAll source ⟨.wanting, Layer.open surrounding, outer⟩ lexemes =
      some ⟨progress, layer', outer⟩ ∧
    layer'.surrounding = surrounding ∧ layer'.fault = none ∧
    Reader.items? source ⟨progress, layer', []⟩ = some items ∧ items.map Node.bare = es

/-- The tokens are read as a phrase. -/
def Reads (source : Source) (lexemes : List Lexeme) (es : List Node) : Phrase → Prop
  | .operand => ∀ e, es = [e] → ReadsOperand source lexemes e
  | .signed => ∀ e, es = [e] → ReadsSigned source lexemes e
  | .level level => ∀ e, es = [e] → ReadsLevel source level lexemes e
  | .series => ReadsSeries source lexemes es
  | .items => ReadsItems source lexemes es

variable {lexemes lexemes' : List Lexeme} {lexeme : Lexeme} {e e' : Node} {es : List Node}

/-! ### Operands -/

theorem readsOperand_constant {value : Literal}
    (h : ∀ layer outer, Reader.step source ⟨.wanting, layer, outer⟩ lexeme =
      some ⟨.operand (.literal (source.span lexeme.start lexeme.stop) value), layer, outer⟩) :
    ReadsOperand source [lexeme] (.literal default value) := by
  intro layer outer
  let node : Node := .literal (source.span lexeme.start lexeme.stop) value
  refine ⟨.operand node, node, ?_, rfl, rfl⟩
  rw [Reader.readAll_cons, h]
  rfl

/-- The rest of a path is read as such. -/
theorem Reader.readAll_path {more : List String} {keys : List String} {start stop : Nat}
    {layer : Layer} {outer : List Layer}
    (h : lexemes.map Lexeme.token = more.flatMap fun key => [Token.dot, Token.name key]) :
    ∃ stop', readAll source ⟨.path keys start stop, layer, outer⟩ lexemes =
      some ⟨.path (keys ++ more) start stop', layer, outer⟩ := by
  induction more generalizing lexemes keys stop with
  | nil =>
    obtain rfl := List.map_eq_nil_iff.1 h
    exact ⟨stop, by rw [readAll_nil, List.append_nil]⟩
  | cons key more ih =>
    obtain ⟨dot, lexemes, rfl, hdot, h⟩ := List.map_eq_cons_iff.1 h
    obtain ⟨name, lexemes, rfl, hname, h⟩ := List.map_eq_cons_iff.1 h
    have hstep : step source ⟨.path keys start stop, layer, outer⟩ dot =
        some ⟨.dotted keys start, layer, outer⟩ := by
      rw [step]
      simp only [hdot]
    have hstep' : step source ⟨.dotted keys start, layer, outer⟩ name =
        some ⟨.path (keys ++ [key]) start name.stop, layer, outer⟩ := by
      rw [step]
      simp only [hname]
    obtain ⟨stop', hrest⟩ : ∃ stop', readAll source
        ⟨.path (keys ++ [key]) start name.stop, layer, outer⟩ lexemes =
        some ⟨.path (keys ++ [key] ++ more) start stop', layer, outer⟩ := ih h
    refine ⟨stop', ?_⟩
    rw [readAll_cons, hstep, Option.bind_some, readAll_cons, hstep', Option.bind_some, hrest,
      List.append_assoc, List.singleton_append]

theorem readsOperand_path {keys : List String} (hkeys : keys ≠ [])
    (h : lexemes.map Lexeme.token = dottedTokens keys) :
    ReadsOperand source lexemes (.path default keys) := by
  intro layer outer
  obtain ⟨key, keys, rfl⟩ := List.exists_cons_of_ne_nil hkeys
  rw [dottedTokens_cons] at h
  obtain ⟨name, lexemes, rfl, hname, h⟩ := List.map_eq_cons_iff.1 h
  obtain ⟨stop, hrest⟩ : ∃ stop, Reader.readAll source
      ⟨.path [key] name.start name.stop, layer, outer⟩ lexemes =
      some ⟨.path ([key] ++ keys) name.start stop, layer, outer⟩ := Reader.readAll_path h
  have hstep : Reader.step source ⟨.wanting, layer, outer⟩ name =
      some ⟨.path [key] name.start name.stop, layer, outer⟩ := by
    rw [Reader.step, Reader.begin]
    simp only [hname]
  refine ⟨.path ([key] ++ keys) name.start stop, _, ?_, rfl, rfl⟩
  rw [Reader.readAll_cons, hstep, Option.bind_some, hrest]

/-! ### Signs and infix operators -/

theorem ReadsSigned.of_operand (h : ReadsOperand source lexemes e) :
    ReadsSigned source lexemes e := by
  intro layer outer
  obtain ⟨progress, node, hread, hnode, hbare⟩ := h layer outer
  exact ⟨progress, node, [], hread, hnode, hbare⟩

theorem ReadsSigned.sign {op : Operator} (hop : op.isSign) (htoken : lexeme.token = .operator op)
    (h : ReadsSigned source lexemes e) :
    ReadsSigned source (lexeme :: lexemes) (.signed default op e) := by
  intro layer outer
  have hstep : Reader.step source ⟨.wanting, layer, outer⟩ lexeme =
      some ⟨.wanting, { layer with signs := (op, lexeme.start) :: layer.signs }, outer⟩ := by
    rw [Reader.step, Reader.begin]
    simp only [htoken, hop, if_true]
  obtain ⟨progress, node, signs, hread, hnode, hbare⟩ :=
    h { layer with signs := (op, lexeme.start) :: layer.signs } outer
  refine ⟨progress, node, signs ++ [(op, lexeme.start)], ?_, hnode, ?_⟩
  · rw [Reader.readAll_cons, hstep, Option.bind_some, hread, List.append_assoc,
      List.singleton_append]
  · -- The first sign is the last one that is applied.
    rw [applySigns_append, applySigns, applySigns, Node.bare, hbare]

theorem ReadsLevel.of_signed (h : ReadsSigned source lexemes e) :
    ReadsLevel source 6 lexemes e := by
  intro layer outer hlayer
  obtain ⟨progress, node, signs, hread, hnode, hbare⟩ := h layer outer
  refine ⟨progress, node, layer.lefts, signs, _, ?_, hnode, reduce_of_lt ?_ _, hbare⟩
  · rw [hread, hlayer.signs, List.append_nil]
  · intro left hleft
    exact Nat.lt_succ_of_le (hlayer.lefts left hleft)

theorem ReadsLevel.next {level : Nat} (h : ReadsLevel source (level + 1) lexemes e) :
    ReadsLevel source level lexemes e := by
  intro layer outer hlayer
  have hlayer' : layer.Awaits (level + 1) :=
    ⟨hlayer.signs, fun left hleft => Nat.le_succ_of_le (hlayer.lefts left hleft)⟩
  obtain ⟨progress, node, lefts, signs, whole, hread, hnode, hreduce, hbare⟩ :=
    h layer outer hlayer'
  refine ⟨progress, node, lefts, signs, whole, hread, hnode, ?_, hbare⟩
  rw [reduce_reduce (by omega) hreduce]
  exact reduce_of_lt (fun left hleft => Nat.lt_succ_of_le (hlayer.lefts left hleft)) whole

theorem ReadsLevel.binary {level : Nat} {op : Operator} (hop : op.strength = level + 1)
    (htoken : lexeme.token = .operator op) (h : ReadsLevel source level lexemes e)
    (h' : ReadsLevel source (level + 1) lexemes' e') :
    ReadsLevel source level (lexemes ++ lexeme :: lexemes') (.binary default op e e') := by
  intro layer outer hlayer
  obtain ⟨progress, node, lefts, signs, left, hread, hnode, hreduce, hbare⟩ := h layer outer hlayer
  -- The operator completes the left part, which waits for the right one.
  have hstep : Reader.step source ⟨progress, { layer with lefts, signs }, outer⟩ lexeme =
      some ⟨.wanting, { layer with lefts := (left, op) :: layer.lefts, signs := [] }, outer⟩ := by
    have hnode' : Reader.operand? source ⟨progress, { layer with lefts, signs }, outer⟩ =
        some node := hnode
    rw [Reader.step_operator hnode' htoken (by omega), Layer.infixOp]
    simp only [hop, hreduce]
  have hlayer' : Layer.Awaits { layer with lefts := (left, op) :: layer.lefts, signs := [] }
      (level + 1) := by
    refine ⟨rfl, ?_⟩
    intro waiting hwaiting
    rcases List.mem_cons.1 hwaiting with rfl | hwaiting
    · exact Nat.le_of_eq hop
    · exact Nat.le_succ_of_le (hlayer.lefts waiting hwaiting)
  obtain ⟨progress', node', lefts', signs', right, hread', hnode', hreduce', hbare'⟩ :=
    h' _ outer hlayer'
  let whole : Node := .binary (source.span left.span.start right.span.stop) op left right
  refine ⟨progress', node', lefts', signs', whole, ?_, hnode', ?_, ?_⟩
  · rw [Reader.readAll_append, hread, Option.bind_some, Reader.readAll_cons, hstep,
      Option.bind_some, hread']
  · rw [reduce_reduce (by omega) hreduce', reduce, if_pos (by omega)]
    exact reduce_of_lt (fun left hleft => Nat.lt_succ_of_le (hlayer.lefts left hleft)) _
  · rw [Node.bare, hbare, hbare']

/-! ### Lists -/

/-- The expression that is held at the end of an item. -/
theorem Layer.complete_eq {layer : Layer} {level : Nat} {node whole : Node}
    (h : reduce source (level + 1) layer.lefts (applySigns source layer.signs node) = ([], whole)) :
    layer.complete source node = whole := by
  rw [complete, reduce_reduce (Nat.zero_le _) h]
  rfl

theorem ReadsSeries.single (h : ReadsLevel source 0 lexemes e) :
    ReadsSeries source lexemes [e] := by
  intro layer outer _ hlefts hsigns
  obtain ⟨progress, node, lefts, signs, whole, hread, hnode, hreduce, hbare⟩ :=
    h layer outer ⟨hsigns, by simp [hlefts]⟩
  refine ⟨progress, node, _, [whole], hread, hnode, ?_, by rw [List.map_singleton, hbare]⟩
  have hcomplete : Layer.complete source { layer with lefts, signs } node = whole :=
    Layer.complete_eq (by rw [hreduce, hlefts])
  rw [Layer.endItem, hcomplete, List.reverse_singleton, List.singleton_append]
  simp only [← hlefts, ← hsigns]

theorem ReadsSeries.more (htoken : lexeme.token = .comma) (h : ReadsLevel source 0 lexemes e)
    (h' : ReadsSeries source lexemes' es) :
    ReadsSeries source (lexemes ++ lexeme :: lexemes') (e :: es) := by
  intro layer outer hitems hlefts hsigns
  obtain ⟨progress, node, layer₁, items, hread, hnode, hlayer₁, hbare⟩ :=
    ReadsSeries.single h layer outer hitems hlefts hsigns
  have hitems₁ : layer₁.surrounding.takesItems := by
    have hsurrounding := congrArg Layer.surrounding hlayer₁
    exact (show layer₁.surrounding = layer.surrounding from hsurrounding) ▸ hitems
  have hstep : Reader.step source ⟨progress, layer₁, outer⟩ lexeme =
      some ⟨.wanting, { layer with items := items.reverse ++ layer.items }, outer⟩ := by
    rw [Reader.step_comma hnode htoken hitems₁, ← hlayer₁]
  obtain ⟨progress', node', layer₂, items', hread', hnode', hlayer₂, hbare'⟩ :=
    h' { layer with items := items.reverse ++ layer.items } outer hitems hlefts hsigns
  refine ⟨progress', node', layer₂, items ++ items', ?_, hnode', ?_, ?_⟩
  · rw [Reader.readAll_append, hread, Option.bind_some, Reader.readAll_cons, hstep,
      Option.bind_some, hread']
  · rw [hlayer₂, List.reverse_append, List.append_assoc]
  · rw [List.map_append, hbare, hbare', List.singleton_append]

theorem ReadsItems.nil : ReadsItems source [] [] := by
  intro surrounding outer hitems
  refine ⟨.wanting, Layer.open surrounding, [], rfl, rfl, rfl, ?_, rfl⟩
  simp [Reader.items?, Reader.operand?, Layer.open, Layer.atItem, hitems]

theorem ReadsItems.of_series (h : ReadsSeries source lexemes es) :
    ReadsItems source lexemes es := by
  intro surrounding outer hitems
  obtain ⟨progress, node, layer, items, hread, hnode, hlayer, hbare⟩ :=
    h (Layer.open surrounding) outer hitems rfl rfl
  refine ⟨progress, layer, items, hread, congrArg Layer.surrounding hlayer,
    congrArg Layer.fault hlayer, ?_, hbare⟩
  have hnode' : Reader.operand? source ⟨progress, layer, []⟩ = some node := hnode
  have hend : (layer.endItem source node).items.reverse = items := by
    rw [hlayer]
    simp [Layer.open]
  rw [Reader.items?, hnode']
  exact congrArg some hend

theorem ReadsItems.trailing (htoken : lexeme.token = .comma)
    (h : ReadsSeries source lexemes es) : ReadsItems source (lexemes ++ [lexeme]) es := by
  intro surrounding outer hitems
  obtain ⟨progress, node, layer, items, hread, hnode, hlayer, hbare⟩ :=
    h (Layer.open surrounding) outer hitems rfl rfl
  have hitems' : layer.surrounding.takesItems := by
    have hsurrounding := congrArg Layer.surrounding hlayer
    exact (show layer.surrounding = surrounding from hsurrounding) ▸ hitems
  refine ⟨.wanting, { Layer.open surrounding with items := items.reverse }, items, ?_, rfl, rfl,
    ?_, hbare⟩
  · rw [Reader.readAll_append, hread, Option.bind_some, Reader.readAll_cons,
      Reader.step_comma hnode htoken hitems', hlayer]
    simp [Layer.open]
  · simp [Reader.items?, Reader.operand?, Layer.open, Layer.atItem, hitems]

/-! ### Parentheses -/

theorem ReadsOperand.group {opening closing : Lexeme} (hopening : opening.token = .opening)
    (hclosing : closing.token = .closing) (h : ReadsLevel source 0 lexemes e) :
    ReadsOperand source (opening :: lexemes ++ [closing]) e := by
  intro layer outer
  have hopen : Reader.step source ⟨.wanting, layer, outer⟩ opening =
      some ⟨.wanting, Layer.open .group, layer :: outer⟩ := by
    rw [Reader.step, Reader.begin]
    simp only [hopening]
    rfl
  obtain ⟨progress, node, lefts, signs, whole, hread, hnode, hreduce, hbare⟩ :=
    h (Layer.open .group) (layer :: outer) ⟨rfl, by simp [Layer.open]⟩
  refine ⟨.operand whole, whole, ?_, rfl, hbare⟩
  have hnode' : Reader.operand? source
      ⟨progress, { Layer.open .group with lefts, signs }, layer :: outer⟩ = some node := hnode
  have hcomplete : Layer.complete source { Layer.open .group with lefts, signs } node = whole :=
    Layer.complete_eq hreduce
  rw [List.cons_append, Reader.readAll_cons, hopen, Option.bind_some, Reader.readAll_append, hread,
    Option.bind_some, Reader.readAll_cons, Reader.step_closing hnode' hclosing, Reader.close]
  simp only [hcomplete]
  simp only [Layer.open, Option.or_none]
  rfl

/-- A call is read as the node of the call. -/
theorem readsOperand_call {word opening closing : Lexeme} {name : String}
    (hword : word.token = .name name) (hopening : opening.token = .opening)
    (hclosing : closing.token = .closing) (h : ReadsItems source lexemes es)
    (hcall : ∀ span items, items.map Node.bare = es →
      (callNode span name items).1.bare = e ∧ (callNode span name items).2 = none) :
    ReadsOperand source (word :: opening :: lexemes ++ [closing]) e := by
  intro layer outer
  have hname : Reader.step source ⟨.wanting, layer, outer⟩ word =
      some ⟨.path [name] word.start word.stop, layer, outer⟩ := by
    rw [Reader.step, Reader.begin]
    simp only [hword]
  have hopen : Reader.step source ⟨.path [name] word.start word.stop, layer, outer⟩ opening =
      some ⟨.wanting, Layer.open (.call name word.start), layer :: outer⟩ := by
    rw [Reader.step]
    simp only [hopening]
    rfl
  obtain ⟨progress, layer', items, hread, hsurrounding, hfault, hitems, hbare⟩ :=
    h (.call name word.start) (layer :: outer) rfl
  obtain ⟨hnode, hnone⟩ := hcall (source.span word.start closing.stop) items hbare
  have hclose : Reader.step source ⟨progress, layer', layer :: outer⟩ closing =
      some ⟨.operand (callNode (source.span word.start closing.stop) name items).1, layer,
        outer⟩ := by
    rw [Reader.step_closing_call hsurrounding hitems hclosing, Reader.closeCall]
    simp only [hsurrounding, hfault, hnone, Option.or_none]
  refine ⟨.operand _, _, ?_, rfl, hnode⟩
  rw [List.cons_append, List.cons_append, Reader.readAll_cons, hname, Option.bind_some,
    Reader.readAll_cons, hopen, Option.bind_some, Reader.readAll_append, hread, Option.bind_some,
    Reader.readAll_cons, hclose]
  rfl

theorem callNode_tag {name : String} (hname : name ≠ "import") (span : Span) {items : List Node}
    (hitems : items.map Node.bare = es) :
    (callNode span name items).1.bare = .tag default name es none ∧
      (callNode span name items).2 = none := by
  unfold callNode
  rw [if_neg hname]
  exact ⟨by rw [Node.bare_tag, hitems, Option.map_none], rfl⟩

theorem callNode_imported (span : Span) {text : String} {items : List Node}
    (hitems : items.map Node.bare = [.literal default (.text text)]) :
    (callNode span "import" items).1.bare = .imported default text ∧
      (callNode span "import" items).2 = none := by
  obtain ⟨node, rfl, hnode⟩ := List.map_eq_singleton_iff.1 hitems
  obtain ⟨span', rfl⟩ := Node.eq_literal_of_bare hnode
  exact ⟨rfl, rfl⟩

/-! ### Phrases -/

/-- **The tokens that derive a phrase are read as that phrase.** -/
theorem reads_of_derives {phrase : Phrase} {ts : List Token} (h : Derives phrase ts es)
    {lexemes : List Lexeme} (hlexemes : lexemes.map Lexeme.token = ts) :
    Reads source lexemes es phrase := by
  induction h generalizing lexemes with
  | noItems =>
    obtain rfl := List.map_eq_nil_iff.1 hlexemes
    exact .nil
  | items _ ih => exact .of_series (ih hlexemes)
  | trailing _ ih =>
    obtain ⟨lexemes, last, rfl, hseries, hlast⟩ := List.map_eq_append_iff.1 hlexemes
    obtain ⟨comma, rfl, hcomma⟩ := List.map_eq_singleton_iff.1 hlast
    exact .trailing hcomma (ih hseries)
  | single _ ih => exact .single (ih hlexemes _ rfl)
  | more _ _ ih ih' =>
    obtain ⟨lexemes, rest, rfl, hfirst, hrest⟩ := List.map_eq_append_iff.1 hlexemes
    obtain ⟨comma, rest, rfl, hcomma, hrest⟩ := List.map_eq_cons_iff.1 hrest
    exact .more hcomma (ih hfirst _ rfl) (ih' hrest)
  | binary hop _ _ ih ih' =>
    obtain ⟨lexemes, rest, rfl, hleft, hrest⟩ := List.map_eq_append_iff.1 hlexemes
    obtain ⟨operator, rest, rfl, hoperator, hright⟩ := List.map_eq_cons_iff.1 hrest
    rintro _ ⟨⟩
    exact .binary ((Operator.mem_atLevel_iff _ _).1 hop) hoperator (ih hleft _ rfl)
      (ih' hright _ rfl)
  | next _ _ ih =>
    rintro _ ⟨⟩
    exact .next (ih hlexemes _ rfl)
  | unmixed _ ih =>
    rintro _ ⟨⟩
    exact .of_signed (ih hlexemes _ rfl)
  | sign hop _ ih =>
    obtain ⟨operator, rest, rfl, hoperator, hrest⟩ := List.map_eq_cons_iff.1 hlexemes
    rintro _ ⟨⟩
    exact .sign ((Operator.isSign_iff _).2 hop) hoperator (ih hrest _ rfl)
  | unsigned _ ih =>
    rintro _ ⟨⟩
    exact .of_operand (ih hlexemes _ rfl)
  | int | double | text | truth =>
    obtain ⟨lexeme, rfl, htoken⟩ := List.map_eq_singleton_iff.1 hlexemes
    rintro _ ⟨⟩
    refine readsOperand_constant fun layer outer => ?_
    rw [Reader.step, Reader.begin]
    simp only [htoken]
  | path hkeys =>
    rintro _ ⟨⟩
    exact readsOperand_path hkeys hlexemes
  | call hname _ ih =>
    obtain ⟨front, last, rfl, hfront, hlast⟩ := List.map_eq_append_iff.1 hlexemes
    obtain ⟨word, rest, rfl, hword, hrest⟩ := List.map_eq_cons_iff.1 hfront
    obtain ⟨opening, rest, rfl, hopening, hitems⟩ := List.map_eq_cons_iff.1 hrest
    obtain ⟨closing, rfl, hclosing⟩ := List.map_eq_singleton_iff.1 hlast
    rintro _ ⟨⟩
    exact readsOperand_call hword hopening hclosing (ih hitems)
      fun span _ => callNode_tag hname span
  | imported _ ih =>
    obtain ⟨front, last, rfl, hfront, hlast⟩ := List.map_eq_append_iff.1 hlexemes
    obtain ⟨word, rest, rfl, hword, hrest⟩ := List.map_eq_cons_iff.1 hfront
    obtain ⟨opening, rest, rfl, hopening, hitems⟩ := List.map_eq_cons_iff.1 hrest
    obtain ⟨closing, rfl, hclosing⟩ := List.map_eq_singleton_iff.1 hlast
    rintro _ ⟨⟩
    exact readsOperand_call hword hopening hclosing (ih hitems)
      fun span _ => callNode_imported span
  | group _ ih =>
    obtain ⟨front, last, rfl, hfront, hlast⟩ := List.map_eq_append_iff.1 hlexemes
    obtain ⟨opening, rest, rfl, hopening, hexpression⟩ := List.map_eq_cons_iff.1 hfront
    obtain ⟨closing, rfl, hclosing⟩ := List.map_eq_singleton_iff.1 hlast
    rintro _ ⟨⟩
    exact .group hopening hclosing (ih hexpression _ rfl)

end Stencil
