/-
Sources with more text behind.

A source can be the front of a longer one (`Source.followedBy`).  A line and a column
depend on what stands before them only, so that everything that is read of the front
has the same places in both:

* **`Source.span_followedBy`** — a span that starts at a boundary of the front;
* **`ParameterList.read_followedBy`**, **`ParameterList.readHeader_followedBy`** — what is
  read of parameters;
* **`Builder.addText_followedBy`**, **`Builder.addHead_followedBy`** — what becomes of a
  builder.

## Design notes

That a reader or a builder holds true places means that all it holds starts at a
boundary.  So there is one equation for each function, under the invariant of what it
is given; that what it returns satisfies the invariant again is known from there.
-/
import Stencil.Proofs.Places.Document

namespace Stencil

variable {source : Source} (rest : List Char)

/-- A source with more text behind. -/
def Source.followedBy (source : Source) (rest : List Char) : Source :=
  { source with text := source.text ++ rest }

/-- The place of a boundary depends on the text before it. -/
theorem Source.span_followedBy {start : Nat} (h : source.IsBoundary start) (stop : Nat) :
    (source.followedBy rest).span start stop = source.span start stop := by
  obtain ⟨after, before, htext, rfl⟩ := h
  have hplace : source.place (byteLength before) = before.foldl Place.past .origin := by
    rw [place, htext, walk_append]
  have hplace' : (source.followedBy rest).place (byteLength before) =
      before.foldl Place.past .origin := by
    rw [place, followedBy, htext, List.append_assoc, walk_append]
  rw [span, span, hplace, hplace']
  rfl

/-! ### Composite expressions -/

theorem applySigns_followedBy {signs : List (Operator × Nat)}
    (h : ∀ sign ∈ signs, source.IsBoundary sign.2) (node : Node) :
    applySigns (source.followedBy rest) signs node = applySigns source signs node := by
  induction signs generalizing node with
  | nil => rfl
  | cons sign signs ih =>
    obtain ⟨op, start⟩ := sign
    obtain ⟨hstart, hsigns⟩ := List.forall_mem_cons.1 h
    rw [applySigns, applySigns, Source.span_followedBy rest hstart, ih hsigns]

theorem reduce_followedBy (strength : Nat) {lefts : List (Node × Operator)}
    (h : ∀ left ∈ lefts, source.IsBoundary left.1.span.start) (right : Node) :
    reduce (source.followedBy rest) strength lefts right =
      reduce source strength lefts right := by
  induction lefts generalizing right with
  | nil => rfl
  | cons left lefts ih =>
    obtain ⟨left, op⟩ := left
    obtain ⟨hstart, hlefts⟩ := List.forall_mem_cons.1 h
    rw [reduce, reduce, Source.span_followedBy rest hstart, ih hlefts]

/-! ### Readers -/

namespace Layer

variable {layer : Layer} {limit : Nat}

/-- Signs and waiting operands are completed in the same way. -/
theorem reduce_applySigns_followedBy (h : layer.Located source limit) (strength : Nat)
    (node : Node) :
    reduce (source.followedBy rest) strength layer.lefts
        (applySigns (source.followedBy rest) layer.signs node) =
      reduce source strength layer.lefts (applySigns source layer.signs node) := by
  have hsigns : ∀ sign ∈ layer.signs, source.IsBoundary sign.2 := fun sign hsign =>
    (h.signs sign hsign).1
  have hlefts : ∀ left ∈ layer.lefts, source.IsBoundary left.1.span.start := fun left hleft =>
    (h.lefts left hleft).1.span.isBoundary_start
  rw [applySigns_followedBy rest hsigns, reduce_followedBy rest strength hlefts]

theorem complete_followedBy (h : layer.Located source limit) (node : Node) :
    layer.complete (source.followedBy rest) node = layer.complete source node := by
  rw [complete, complete, reduce_applySigns_followedBy rest h]

theorem infixOp_followedBy (h : layer.Located source limit) (node : Node) (op : Operator) :
    layer.infixOp (source.followedBy rest) node op = layer.infixOp source node op := by
  rw [infixOp, infixOp, reduce_applySigns_followedBy rest h]

theorem endItem_followedBy (h : layer.Located source limit) (node : Node) :
    layer.endItem (source.followedBy rest) node = layer.endItem source node := by
  rw [endItem, endItem, complete_followedBy rest h]

end Layer

namespace Reader

variable {reader : Reader} {lexeme : Lexeme} {stop : Nat}

theorem closeCall_followedBy (h : reader.Located source stop) (arguments : List Node)
    (stop' : Nat) :
    reader.closeCall (source.followedBy rest) arguments stop' =
      reader.closeCall source arguments stop' := by
  unfold closeCall
  split
  · rename_i name start parent outer hsurrounding houter
    obtain ⟨hstart, -⟩ := h.layer.call name start hsurrounding
    rw [Source.span_followedBy rest hstart]
  · rfl

theorem proceed_followedBy (h : reader.Located source stop) (node : Node) (lexeme : Lexeme) :
    reader.proceed (source.followedBy rest) node lexeme =
      reader.proceed source node lexeme := by
  have hlayer := h.layer
  simp only [proceed, close, Layer.infixOp_followedBy rest hlayer,
    Layer.endItem_followedBy rest hlayer, Layer.complete_followedBy rest hlayer,
    closeCall_followedBy rest h]

theorem begin_followedBy (h : reader.Located source stop)
    (hstart : source.IsBoundary lexeme.start) :
    reader.begin (source.followedBy rest) lexeme = reader.begin source lexeme := by
  simp only [begin, closeCall_followedBy rest h, Source.span_followedBy rest hstart]

/-- A token is read in the same way. -/
theorem step_followedBy (h : reader.Located source stop)
    (hstart : source.IsBoundary lexeme.start) :
    reader.step (source.followedBy rest) lexeme = reader.step source lexeme := by
  have hprogress := h.progress
  unfold step
  split
  · exact begin_followedBy rest h hstart
  · rfl
  · -- A path that does not go on is an operand, whose place is made only now.
    rename_i keys first last heq
    rw [heq] at hprogress
    have hfirst : source.IsBoundary first := hprogress.1.isBoundary_start
    simp only [Source.span_followedBy rest hfirst, proceed_followedBy rest h]
  · exact proceed_followedBy rest h _ lexeme

/-- Spaced lexemes are read in the same way. -/
theorem run_followedBy {lexemes : List Lexeme} {high : Nat} (h : reader.Located source stop)
    (hlexemes : Spaced source stop lexemes high) :
    reader.run (source.followedBy rest) lexemes = reader.run source lexemes := by
  induction lexemes generalizing reader stop with
  | nil => rfl
  | cons lexeme lexemes ih =>
    obtain ⟨hlow, hle, hstart, hstop, hspaced⟩ := hlexemes
    rw [run, run, step_followedBy rest h hstart]
    split
    · rename_i next hstep
      exact ih (h.step hlow hle hstart hstop (step_cases hstep)) hspaced
    · rfl

theorem operand?_followedBy (h : reader.Located source stop) :
    reader.operand? (source.followedBy rest) = reader.operand? source := by
  have hprogress := h.progress
  unfold operand?
  split
  · rename_i keys first last heq
    rw [heq] at hprogress
    have hfirst : source.IsBoundary first := hprogress.1.isBoundary_start
    rw [Source.span_followedBy rest hfirst]
  · rfl
  · rfl

theorem items?_followedBy (h : reader.Located source stop) :
    reader.items? (source.followedBy rest) = reader.items? source := by
  simp only [items?, operand?_followedBy rest h, Layer.endItem_followedBy rest h.layer]

end Reader

/-! ### Parameter lists -/

namespace ParameterList

variable {list : ParameterList}

theorem mistake_followedBy (h : list.Stands source) (wanted : Wanted) {stuck : Option Lexeme}
    (hstuck : ∀ lexeme, stuck = some lexeme → source.IsBoundary lexeme.start) :
    list.mistake (source.followedBy rest) wanted stuck = list.mistake source wanted stuck := by
  cases stuck with
  | none => rw [mistake, mistake, endSpan, endSpan, Source.span_followedBy rest h.closing]
  | some lexeme => rw [mistake, mistake, Source.span_followedBy rest (hstuck lexeme rfl)]

theorem readItems_followedBy (h : list.Stands source) {surrounding : Surrounding}
    (hsurrounding : ∀ name start, surrounding ≠ .call name start) {low : Nat}
    {lexemes : List Lexeme} (hlexemes : Spaced source low lexemes list.closing) :
    list.readItems (source.followedBy rest) surrounding lexemes =
      list.readItems source surrounding lexemes := by
  have hstart : (Reader.start surrounding).Located source low :=
    Reader.located_start surrounding hsurrounding low
  obtain ⟨⟨stop, hreader⟩, hstuck⟩ := hstart.run hlexemes
  have hfirst : ∀ lexeme, ((Reader.start surrounding).run source lexemes).2 = some lexeme →
      source.IsBoundary lexeme.start := fun lexeme hlexeme =>
    (hstuck lexeme hlexeme).isBoundary_start
  simp only [readItems, Reader.run_followedBy rest hstart hlexemes,
    Reader.items?_followedBy rest hreader]
  split
  · rfl
  · split
    · rfl
    · exact congrArg Except.error (mistake_followedBy rest h _ hfirst)

theorem read_followedBy (h : list.Stands source) :
    list.read (source.followedBy rest) = list.read source := by
  obtain ⟨low, hlexemes⟩ := h.lexemes
  exact readItems_followedBy rest h (by rintro _ _ ⟨⟩) hlexemes

/-- The header of a loop is read in the same way. -/
theorem readHeader_followedBy (h : list.Stands source) :
    list.readHeader (source.followedBy rest) = list.readHeader source := by
  obtain ⟨low, hlexemes⟩ := h.lexemes
  have hend (wanted : Wanted) : list.mistake (source.followedBy rest) wanted none =
      list.mistake source wanted none :=
    mistake_followedBy rest h wanted (by rintro _ ⟨⟩)
  unfold readHeader
  split
  · rw [hend]
  · rename_i name start stop lexemes heq
    rw [heq] at hlexemes
    obtain ⟨-, -, hstart, -, hspaced⟩ := hlexemes
    split
    · rw [hend]
    · obtain ⟨-, -, -, -, hspaced⟩ := hspaced
      have hheader : ∀ name start, Surrounding.header ≠ .call name start := by rintro _ _ ⟨⟩
      simp only [readItems_followedBy rest h hheader hspaced, hend,
        Source.span_followedBy rest hstart]
    · obtain ⟨-, -, hsecond, -, -⟩ := hspaced
      rw [mistake_followedBy rest h _ (by rintro _ ⟨⟩; exact hsecond)]
  · rename_i lexeme lexemes _ heq
    rw [heq] at hlexemes
    obtain ⟨-, -, hfirst, -, -⟩ := hlexemes
    rw [mistake_followedBy rest h _ (by rintro _ ⟨⟩; exact hfirst)]

end ParameterList

/-! ### Heads -/

namespace Head

variable {head : Head}

theorem span_followedBy (h : head.Stands source) :
    head.span (source.followedBy rest) = head.span source := by
  have hstart : source.IsBoundary head.start := h.span.isBoundary_start
  exact Source.span_followedBy rest hstart head.stop

theorem blame_followedBy (h : head.Stands source) (fault : Fault) :
    head.blame (source.followedBy rest) fault = head.blame source fault := by
  rw [blame, blame, span_followedBy rest h]

theorem list_followedBy (h : head.Stands source) :
    head.list (source.followedBy rest) = head.list source := by
  simp only [list, blame_followedBy rest h]

theorem single_followedBy (h : head.Stands source) :
    head.single (source.followedBy rest) = head.single source := by
  rw [single, single, list_followedBy rest h]
  refine h.list.bind_congr fun list hlist => ?_
  simp only [ParameterList.read_followedBy rest hlist, blame_followedBy rest h]

theorem literal_followedBy (h : head.Stands source) :
    head.literal (source.followedBy rest) = head.literal source := by
  rw [literal, literal, single_followedBy rest h]

theorem requireBody_followedBy (h : head.Stands source) :
    head.requireBody (source.followedBy rest) = head.requireBody source := by
  rw [requireBody, requireBody, blame_followedBy rest h]

theorem forbidBody_followedBy (h : head.Stands source) :
    head.forbidBody (source.followedBy rest) = head.forbidBody source := by
  rw [forbidBody, forbidBody, blame_followedBy rest h]

theorem interpretFor_followedBy (h : head.Stands source) :
    head.interpretFor (source.followedBy rest) = head.interpretFor source := by
  rw [interpretFor, interpretFor, list_followedBy rest h]
  refine h.list.bind_congr fun list hlist => ?_
  rw [ParameterList.readHeader_followedBy rest hlist, requireBody_followedBy rest h,
    span_followedBy rest h]

theorem interpretTag_followedBy (h : head.Stands source) :
    head.interpretTag (source.followedBy rest) = head.interpretTag source := by
  unfold interpretTag
  rw [span_followedBy rest h]
  cases hlist : head.parameters with
  | none => rfl
  | some list =>
    dsimp only
    rw [ParameterList.read_followedBy rest (h.parameters list hlist)]

/-- A head starts the same. -/
theorem interpret_followedBy (h : head.Stands source) :
    head.interpret (source.followedBy rest) = head.interpret source := by
  simp only [interpret, interpretIf, interpretExtend, interpretImport, interpretEmbed,
    single_followedBy rest h, literal_followedBy rest h, requireBody_followedBy rest h,
    forbidBody_followedBy rest h, interpretFor_followedBy rest h, interpretTag_followedBy rest h,
    span_followedBy rest h, blame_followedBy rest h]

theorem interpretExport_followedBy (h : head.Stands source) :
    head.interpretExport (source.followedBy rest) = head.interpretExport source := by
  rw [interpretExport, interpretExport, list_followedBy rest h]
  refine h.list.bind_congr fun list hlist => ?_
  simp only [ParameterList.read_followedBy rest hlist, blame_followedBy rest h]

end Head

/-! ### Builders -/

namespace Builder

variable {builder : Builder} {head : Head}

theorem addOther_followedBy (h : head.Stands source) :
    builder.addOther (source.followedBy rest) head = builder.addOther source head := by
  simp only [addOther, addExport, Head.interpret_followedBy rest h,
    Head.interpretExport_followedBy rest h, Head.single_followedBy rest h,
    Head.span_followedBy rest h, Head.blame_followedBy rest h]

/-- A head is added in the same way. -/
theorem addHead_followedBy (h : head.Stands source) :
    builder.addHead (source.followedBy rest) head = builder.addHead source head := by
  simp only [addHead, addOther_followedBy rest h]

/-- Raw text is added in the same way. -/
theorem addText_followedBy {segment : Segment} (h : segment.Stands source) :
    builder.addText (source.followedBy rest) segment = builder.addText source segment := by
  have hstart : source.IsBoundary segment.start := h.span.isBoundary_start
  rw [addText, addText, Source.span_followedBy rest hstart]

end Builder

end Stencil
