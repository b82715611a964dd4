/-
Parameter lists under other labels.

Reading a parameter list of a source with another label gives the same
expressions under that label, or the same error.

* **`Reader.run_relabel`** — a reader and the token that it is stuck on;
* **`ParameterList.read_relabel`**, **`ParameterList.readHeader_relabel`** — what
  is read in the end.

The label is only ever copied from the source into spans, and no decision looks
at a span.  So each function of the reader is shown to go along with `relabel`,
and no invariant is needed.
-/
import Stencil.Document
import Stencil.Proofs.Relabelling

namespace Stencil

variable (f : String → String)

/-! ### Results -/

/-- A result of reading under other labels. -/
def relabelResult {α β : Type} (g : α → β) : Except ParseError α → Except ParseError β
  | .ok a => .ok (g a)
  | .error error => .error (error.relabel f)

variable {f}

theorem relabelResult_bind_of_ok {α β γ δ : Type} {g : α → β} {h : γ → δ}
    {x : Except ParseError α} {k : α → Except ParseError γ} {k' : β → Except ParseError δ}
    (hk : ∀ a, x = .ok a → k' (g a) = relabelResult f h (k a)) :
    (relabelResult f g x >>= k') = relabelResult f h (x >>= k) := by
  cases x with
  | error error => rfl
  | ok a => exact hk a rfl

theorem relabelResult_bind {α β γ δ : Type} {g : α → β} {h : γ → δ} {x : Except ParseError α}
    {k : α → Except ParseError γ} {k' : β → Except ParseError δ}
    (hk : ∀ a, k' (g a) = relabelResult f h (k a)) :
    (relabelResult f g x >>= k') = relabelResult f h (x >>= k) :=
  relabelResult_bind_of_ok fun a _ => hk a

/-! ### Readers -/

theorem applySigns_relabel (source : Source) (signs : List (Operator × Nat)) (node : Node) :
    applySigns (source.relabel f) signs (node.relabel f) =
      (applySigns source signs node).relabel f := by
  induction signs generalizing node with
  | nil => rfl
  | cons sign signs ih =>
    obtain ⟨op, start⟩ := sign
    rw [applySigns, applySigns, ← ih, Node.relabel, Node.span_relabel, Span.stop_relabel,
      Source.span_relabel]

/-- Waiting operands under other labels. -/
def relabelLefts (f : String → String) (lefts : List (Node × Operator)) :
    List (Node × Operator) :=
  lefts.map fun left => (left.1.relabel f, left.2)

theorem reduce_relabel (source : Source) (strength : Nat) (lefts : List (Node × Operator))
    (right : Node) :
    reduce (source.relabel f) strength (relabelLefts f lefts) (right.relabel f) =
      (relabelLefts f (reduce source strength lefts right).1,
        (reduce source strength lefts right).2.relabel f) := by
  induction lefts generalizing right with
  | nil => rfl
  | cons left lefts ih =>
    obtain ⟨node, op⟩ := left
    rw [relabelLefts, List.map_cons, reduce, reduce]
    by_cases h : strength ≤ op.strength
    · rw [if_pos h, if_pos h, ← ih, Node.relabel]
      simp [relabelLefts]
    · rw [if_neg h, if_neg h]
      rfl

theorem callNode_relabel (span : Span) (name : String) (arguments : List Node) :
    callNode (span.relabel f) name (arguments.map (Node.relabel f)) =
      ((callNode span name arguments).1.relabel f,
        (callNode span name arguments).2.map (Span.relabel f)) := by
  unfold callNode
  by_cases hname : name = "import"
  · rw [if_pos hname, if_pos hname]
    match arguments with
    | [] => rfl
    | [node] =>
      cases node with
      | literal _ value => cases value <;> rfl
      | tag _ _ _ body => cases body <;> rfl
      | _ => rfl
    | _ :: _ :: _ => simp [Node.relabel]
  · rw [if_neg hname, if_neg hname, Node.relabel, Node.relabelAll_eq_map]
    rfl

/-- A layer under other labels. -/
def Layer.relabel (f : String → String) (layer : Layer) : Layer :=
  { layer with
    items := layer.items.map (Node.relabel f)
    lefts := relabelLefts f layer.lefts
    fault := layer.fault.map (Span.relabel f) }

section

variable (source : Source) (layer : Layer) (node : Node)

@[simp] theorem Layer.surrounding_relabel :
    (layer.relabel f).surrounding = layer.surrounding := rfl

@[simp] theorem Layer.items_relabel :
    (layer.relabel f).items = layer.items.map (Node.relabel f) := rfl

@[simp] theorem Layer.atItem_relabel : (layer.relabel f).atItem = layer.atItem := by
  simp [Layer.atItem, Layer.relabel, relabelLefts]

@[simp] theorem Layer.complete_relabel :
    (layer.relabel f).complete (source.relabel f) (node.relabel f) =
      (layer.complete source node).relabel f := by
  rw [Layer.complete, Layer.complete, Layer.relabel, applySigns_relabel, reduce_relabel]

@[simp] theorem Layer.infixOp_relabel (op : Operator) :
    (layer.relabel f).infixOp (source.relabel f) (node.relabel f) op =
      (layer.infixOp source node op).relabel f := by
  simp only [Layer.infixOp, Layer.relabel, applySigns_relabel, reduce_relabel]
  rfl

@[simp] theorem Layer.endItem_relabel :
    (layer.relabel f).endItem (source.relabel f) (node.relabel f) =
      (layer.endItem source node).relabel f := by
  rw [Layer.endItem, Layer.complete_relabel]
  rfl

end

/-- What the last tokens were, under other labels. -/
def Progress.relabel (f : String → String) : Progress → Progress
  | .operand node => .operand (node.relabel f)
  | progress => progress

namespace Reader

/-- A reader under other labels. -/
def relabel (f : String → String) (reader : Reader) : Reader :=
  ⟨reader.progress.relabel f, reader.layer.relabel f, reader.outer.map (Layer.relabel f)⟩

section

variable (source : Source) (reader : Reader) (node : Node) (lexeme : Lexeme)

@[simp] theorem progress_relabel : (reader.relabel f).progress = reader.progress.relabel f := rfl

@[simp] theorem layer_relabel : (reader.relabel f).layer = reader.layer.relabel f := rfl

@[simp] theorem outer_relabel :
    (reader.relabel f).outer = reader.outer.map (Layer.relabel f) := rfl

@[simp] theorem enter_relabel (surrounding : Surrounding) :
    (reader.relabel f).enter surrounding = (reader.enter surrounding).relabel f := rfl

/-- The first of two faults, under other labels. -/
theorem map_or_relabel (fault fault' : Option Span) :
    (fault.map (Span.relabel f)).or (fault'.map (Span.relabel f)) =
      (fault.or fault').map (Span.relabel f) := by
  cases fault <;> rfl

theorem closeCall_relabel (arguments : List Node) (stop : Nat) :
    (reader.relabel f).closeCall (source.relabel f) (arguments.map (Node.relabel f)) stop =
      (reader.closeCall source arguments stop).map (relabel f) := by
  obtain ⟨progress, ⟨surrounding, items, lefts, signs, fault⟩, outer⟩ := reader
  cases surrounding with
  | call name start =>
    cases outer with
    | nil => rfl
    | cons parent outer =>
      simp only [closeCall, relabel, Layer.relabel, List.map_cons, Source.span_relabel,
        callNode_relabel, map_or_relabel, Option.map_some]
      rfl
  | _ => rfl

theorem close_relabel (stop : Nat) :
    (reader.relabel f).close (source.relabel f) (node.relabel f) stop =
      (reader.close source node stop).map (relabel f) := by
  have hcall := closeCall_relabel (f := f) source reader
    (reader.layer.endItem source node).items.reverse stop
  simp only [close, layer_relabel, outer_relabel, Layer.surrounding_relabel,
    Layer.endItem_relabel, Layer.complete_relabel, Layer.items_relabel, ← List.map_reverse, hcall]
  cases reader.layer.surrounding with
  | group =>
    cases reader.outer with
    | nil => rfl
    | cons parent outer =>
      simp only [List.map_cons, Layer.relabel, map_or_relabel]
      rfl
  | list | header => cases reader.outer <;> rfl
  | call name start => rfl

theorem proceed_relabel :
    (reader.relabel f).proceed (source.relabel f) (node.relabel f) lexeme =
      (reader.proceed source node lexeme).map (relabel f) := by
  simp only [proceed, layer_relabel, outer_relabel, Layer.surrounding_relabel,
    Layer.endItem_relabel, Layer.infixOp_relabel, close_relabel]
  cases lexeme.token with
  | operator op =>
    dsimp only
    split <;> rfl
  | comma =>
    dsimp only
    split <;> rfl
  | _ => rfl

theorem begin_relabel :
    (reader.relabel f).begin (source.relabel f) lexeme =
      (reader.begin source lexeme).map (relabel f) := by
  have hcall := closeCall_relabel (f := f) source reader reader.layer.items.reverse lexeme.stop
  simp only [begin, layer_relabel, Layer.atItem_relabel, Layer.items_relabel, ← List.map_reverse,
    hcall, enter_relabel]
  cases lexeme.token with
  | operator op =>
    dsimp only
    split <;> rfl
  | closing =>
    dsimp only
    split <;> rfl
  | _ => rfl

/-- Reading one token goes along with relabelling. -/
theorem step_relabel :
    (reader.relabel f).step (source.relabel f) lexeme =
      (reader.step source lexeme).map (relabel f) := by
  simp only [step, progress_relabel]
  cases hprogress : reader.progress with
  | wanting => exact begin_relabel source reader lexeme
  | operand node => exact proceed_relabel source reader node lexeme
  | dotted keys start => cases lexeme.token <;> rfl
  | path keys start stop =>
    -- A path without a dot behind it is an operand, unless it is a name that is called.
    have hproceed := proceed_relabel (f := f) source reader
      (.path (source.span start stop) keys) lexeme
    cases htoken : lexeme.token with
    | dot => rfl
    | opening =>
      match keys with
      | [name] => rfl
      | [] | _ :: _ :: _ => simpa [htoken, Node.relabel, Progress.relabel] using hproceed
    | _ => simpa [htoken, Node.relabel, Progress.relabel] using hproceed

theorem run_relabel (lexemes : List Lexeme) :
    (reader.relabel f).run (source.relabel f) lexemes =
      ((reader.run source lexemes).1.relabel f, (reader.run source lexemes).2) := by
  induction lexemes generalizing reader with
  | nil => rfl
  | cons lexeme lexemes ih =>
    rw [run, run, step_relabel]
    cases reader.step source lexeme with
    | none => rfl
    | some next => exact ih next

theorem wanted_relabel : (reader.relabel f).wanted = reader.wanted := by
  obtain ⟨progress, layer, outer⟩ := reader
  cases progress <;> simp [wanted, relabel, Progress.relabel]

theorem outerFault_relabel :
    (reader.relabel f).outerFault = reader.outerFault.map (Span.relabel f) := by
  rw [outerFault, outerFault, outer_relabel, List.getLast?_map]
  cases reader.outer.getLast? <;> rfl

theorem items?_relabel :
    (reader.relabel f).items? (source.relabel f) =
      (reader.items? source).map (List.map (Node.relabel f)) := by
  -- What is read last is an item of the list, if no bracket is open around it.
  have hitem := fun node => Layer.endItem_relabel (f := f) source reader.layer node
  obtain ⟨progress, layer, outer⟩ := reader
  cases outer with
  | cons parent outer => rfl
  | nil =>
    cases progress with
    | wanting =>
      simp only [items?, relabel, List.map_nil, operand?, Progress.relabel,
        Layer.surrounding_relabel, Layer.atItem_relabel, Layer.items_relabel]
      split <;> simp
    | dotted keys start => rfl
    | path keys start stop =>
      simp only [items?, relabel, List.map_nil, operand?, Progress.relabel, Source.span_relabel,
        Option.map_some, List.map_reverse, ← Layer.items_relabel, ← hitem, Node.relabel]
    | operand node =>
      simp only [items?, relabel, List.map_nil, operand?, Progress.relabel, Option.map_some,
        List.map_reverse, ← Layer.items_relabel, ← hitem]

end

end Reader

/-! ### Lists -/

namespace ParameterList

variable (source : Source) (list : ParameterList)

theorem mistake_relabel (wanted : Wanted) (stuck : Option Lexeme) :
    list.mistake (source.relabel f) wanted stuck =
      (list.mistake source wanted stuck).relabel f := by
  cases stuck <;> rfl

theorem readItems_relabel (surrounding : Surrounding) (lexemes : List Lexeme) :
    list.readItems (source.relabel f) surrounding lexemes =
      relabelResult f (List.map (Node.relabel f)) (list.readItems source surrounding lexemes) := by
  have hrun := Reader.run_relabel (f := f) source (Reader.start surrounding) lexemes
  rw [show (Reader.start surrounding).relabel f = Reader.start surrounding from rfl] at hrun
  rw [readItems, readItems, hrun]
  obtain ⟨reader, stuck⟩ := (Reader.start surrounding).run source lexemes
  simp only [Reader.outerFault_relabel, Reader.items?_relabel, Reader.wanted_relabel,
    mistake_relabel]
  cases reader.outerFault with
  | some span => rfl
  | none =>
    cases stuck with
    | some lexeme => rfl
    | none => cases reader.items? source <;> rfl

theorem read_relabel :
    list.read (source.relabel f) =
      relabelResult f (List.map (Node.relabel f)) (list.read source) :=
  readItems_relabel source list .list list.lexemes

theorem readHeader_relabel :
    list.readHeader (source.relabel f) =
      relabelResult f (fun header => (header.1.relabel f, header.2.relabel f))
        (list.readHeader source) := by
  unfold readHeader
  rcases list.lexemes with _ | ⟨⟨token, start, stop⟩, _ | ⟨⟨token', start', stop'⟩, rest⟩⟩
  · rfl
  · cases token <;> rfl
  · cases token with
    | name name =>
      cases token' with
      | inWord =>
        dsimp only
        rw [readItems_relabel]
        match list.readItems source .header rest with
        | .error error => rfl
        | .ok [] | .ok [data] | .ok (_ :: _ :: _) => rfl
      | _ => rfl
    | _ => rfl

end ParameterList

end Stencil
