/-
Places that tell the truth.

* **`Source.At`** — a text that is left to be read, and its offset in the source;
* **`Source.Locates`** — a span that is a piece of a source and has the line and
  the column of its start, where `Source.Cites` leaves open which end comes first;
* **`Node.LocatedIn`** — all places of a node are pieces of a source;
* **`ParseError.LocatedIn`** — what holds of the places of parse errors.

## Design notes

The place of an unexpected end of parameters goes backwards: it starts at the
closing parenthesis and stops where the last token stops.  All others start
before they stop.
-/
import Stencil.ParseError
import Stencil.Proofs.Occurrence

namespace Stencil

namespace Source

variable {source : Source}

/-- A text is what is left of a source at an offset. -/
def At (source : Source) (text : List Char) (offset : Nat) : Prop :=
  ∃ before, source.text = before ++ text ∧ byteLength before = offset

/-- An offset does not fall within a character. -/
def IsBoundary (source : Source) (offset : Nat) : Prop := ∃ text, source.At text offset

/-- A span names the source, the line and the column of its start, and both ends are
boundaries. -/
structure Cites (source : Source) (span : Span) : Prop where
  file : span.file = source.label
  /-- The line counts the line feeds before the start, the column the characters since
  the last of them. -/
  start : ∃ before after, source.text = before ++ after ∧ byteLength before = span.start ∧
    span.line = 1 + before.count '\n' ∧
    span.column = 1 + (before.reverse.takeWhile fun c => c ≠ '\n').length
  stop : source.IsBoundary span.stop

/-- A span is a piece of the source. -/
structure Locates (source : Source) (span : Span) : Prop extends source.Cites span where
  le : span.start ≤ span.stop

theorem at_start (source : Source) : source.At source.text 0 := ⟨[], rfl, rfl⟩

theorem At.isBoundary {text : List Char} {offset : Nat} (h : source.At text offset) :
    source.IsBoundary offset := ⟨text, h⟩

/-- Behind the first characters of a text stands the rest of it. -/
theorem At.advance {chars rest : List Char} {offset : Nat} (h : source.At (chars ++ rest) offset) :
    source.At rest (offset + byteLength chars) := by
  obtain ⟨before, htext, rfl⟩ := h
  exact ⟨before ++ chars, by rw [htext, List.append_assoc], byteLength_append before chars⟩

theorem At.tail {c : Char} {rest : List Char} {offset : Nat} (h : source.At (c :: rest) offset) :
    source.At rest (offset + c.utf8Size) :=
  @At.advance source [c] rest offset h

theorem At.isSuffix {text : List Char} {offset : Nat} (h : source.At text offset) :
    text <:+ source.text := by
  obtain ⟨before, htext, -⟩ := h
  exact ⟨before, htext.symm⟩

/-- A boundary lies within the source. -/
theorem IsBoundary.le {offset : Nat} (h : source.IsBoundary offset) :
    offset ≤ byteLength source.text := by
  obtain ⟨text, before, htext, rfl⟩ := h
  rw [htext, byteLength_append]
  exact Nat.le_add_right _ _

/-- The column counts the characters since the last line feed. -/
theorem column_foldl_past (before : List Char) :
    (before.reverse.foldl Place.past .origin).column =
      1 + (before.takeWhile fun c => c ≠ '\n').length := by
  induction before with
  | nil => rfl
  | cons c before ih =>
    rw [List.reverse_cons, List.foldl_append, List.foldl_cons, List.foldl_nil, Place.past]
    by_cases hc : c = '\n'
    · rw [if_pos hc, hc]
      rfl
    · rw [if_neg hc, List.takeWhile_cons_of_pos (by simpa using hc), List.length_cons]
      dsimp only
      rw [ih, Nat.add_assoc]

/-- The line and the column of a span whose start is the length of what stands in front. -/
theorem line_column_span {before after : List Char} (h : source.text = before ++ after)
    (stop : Nat) :
    (source.span (byteLength before) stop).line = 1 + before.count '\n' ∧
      (source.span (byteLength before) stop).column =
        1 + (before.reverse.takeWhile fun c => c ≠ '\n').length := by
  have hplace : source.place (byteLength before) = before.foldl Place.past .origin := by
    rw [place, h, walk_append]
  constructor
  · rw [span, hplace]
    exact walk_line before .origin
  · rw [span, hplace, ← column_foldl_past, List.reverse_reverse]

/-- Two boundaries make a span that cites the source. -/
theorem cites_span {start stop : Nat} (hstart : source.IsBoundary start)
    (hstop : source.IsBoundary stop) : source.Cites (source.span start stop) := by
  obtain ⟨after, before, htext, rfl⟩ := hstart
  exact ⟨rfl, ⟨before, after, htext, rfl, line_column_span htext stop⟩, hstop⟩

theorem locates_span {start stop : Nat} (hstart : source.IsBoundary start)
    (hstop : source.IsBoundary stop) (h : start ≤ stop) :
    source.Locates (source.span start stop) :=
  ⟨cites_span hstart hstop, h⟩

theorem Cites.isBoundary_start {span : Span} (h : source.Cites span) :
    source.IsBoundary span.start := by
  obtain ⟨before, after, htext, hstart, -⟩ := h.start
  exact ⟨after, before, htext, hstart⟩

end Source

variable {source : Source}

/-! ### Nodes -/

/-- All places of a node, at any depth, are pieces of a source. -/
def Node.LocatedIn (source : Source) (node : Node) : Prop :=
  ∀ inner, Node.Occurs inner node → source.Locates inner.span

namespace Node.LocatedIn

theorem span {node : Node} (h : node.LocatedIn source) : source.Locates node.span :=
  h node .self

theorem of_children {node : Node} (hspan : source.Locates node.span)
    (h : ∀ child ∈ node.children, child.LocatedIn source) : node.LocatedIn source := by
  intro inner hinner
  cases hinner with
  | self => exact hspan
  | within hchild hinner => exact h _ hchild inner hinner

end Node.LocatedIn

/-- All places of the nodes of a sequence are pieces of a source. -/
def LocatedAll (source : Source) (nodes : List Node) : Prop :=
  ∀ node ∈ nodes, node.LocatedIn source

theorem locatedAll_iff {nodes : List Node} :
    LocatedAll source nodes ↔ ∀ node, Node.OccursIn node nodes → source.Locates node.span := by
  constructor
  · rintro h node ⟨top, htop, hnode⟩
    exact h top htop node hnode
  · intro h top htop node hnode
    exact h node ⟨top, htop, hnode⟩

/-! ### Errors -/

/-- Whether a fault is the unexpected end of a parameter list. -/
def Fault.isEnd : Fault → Bool
  | .unexpectedEnd _ => true
  | _ => false

/-- The place of an error cites the source and, but for an unexpected end, is a piece of it. -/
def ParseError.LocatedIn (source : Source) (error : ParseError) : Prop :=
  source.Cites error.span ∧
    if error.fault.isEnd then error.span.stop ≤ error.span.start
    else error.span.start ≤ error.span.stop

theorem ParseError.LocatedIn.of_locates {fault : Fault} {span : Span} (h : source.Locates span)
    (hfault : fault.isEnd = false) : ParseError.LocatedIn source ⟨fault, span⟩ := by
  refine ⟨h.toCites, ?_⟩
  dsimp only
  rw [hfault]
  exact h.le

/-- A result is good, or an error with a true place. -/
def Located {α : Type} (source : Source) (good : α → Prop) : Except ParseError α → Prop
  | .ok value => good value
  | .error error => error.LocatedIn source

theorem Located.of_locates {α : Type} {good : α → Prop} {fault : Fault} {span : Span}
    (h : source.Locates span) (hfault : fault.isEnd = false) :
    Located source good (.error ⟨fault, span⟩) :=
  ParseError.LocatedIn.of_locates h hfault

theorem Located.bind {α β : Type} {good : α → Prop} {good' : β → Prop}
    {result : Except ParseError α} {next : α → Except ParseError β}
    (h : Located source good result)
    (hnext : ∀ value, good value → Located source good' (next value)) :
    Located source good' (result >>= next) := by
  cases result with
  | error error => exact h
  | ok value => exact hnext value h

/-- What is done with a good value decides what is done with a result. -/
theorem Located.bind_congr {α β : Type} {good : α → Prop} {result : Except ParseError α}
    {next next' : α → Except ParseError β} (h : Located source good result)
    (hnext : ∀ value, good value → next value = next' value) :
    (result >>= next) = (result >>= next') := by
  cases result with
  | error error => rfl
  | ok value => exact hnext value h

end Stencil
