/-
Reading on in the middle of raw text.

A `Scanner` is a builder together with the raw text that has been read since the
last head.  `Scanner.read` reads the rest of a template from there, and is
`Builder.read` where no raw text waits:

* **`Scanner.read_writeRaw`** — raw text that is written waits;
* **`Scanner.read_head`** — a head that is recognized takes in the text that waits;
* **`Scanner.read_writeHead`**, **`Scanner.read_writeCloser`** — the heads that start
  something, and those that close a block.
-/
import Stencil.Proofs.Printing.Heads

namespace Stencil

/-- A builder, and the raw text of the segment that is being read, in reverse. -/
structure Scanner where
  builder : Builder
  start : Nat
  offset : Nat
  done : List Char

/-- Whether nodes may stand in a block, and not only exports. -/
def Block.takesNodes : Block → Bool
  | .extend .. => false
  | _ => true

namespace Scanner

variable {source : Source} {s : Scanner} {builder : Builder} {head : Head} {name : String}
  {text tail parameters : List Char} {ts : List Token} {hasBody : Bool}

/-- A scanner where no raw text waits. -/
def fresh (builder : Builder) (offset : Nat) : Scanner := ⟨builder, offset, offset, []⟩

/-- Read the rest of a template. -/
def read (source : Source) (s : Scanner) (text : List Char) : Except ParseError (List Node) := do
  let segment ← Segment.scanFrom source s.builder.closer s.start text s.offset s.done
  let builder ← s.builder.addText source segment
  match segment.head with
  | none => builder.finish
  | some head => do
    let builder ← builder.addHead source head
    builder.read source segment.rest head.stop

theorem read_fresh (source : Source) (builder : Builder) (text : List Char) (offset : Nat) :
    (fresh builder offset).read source text = builder.read source text offset :=
  (builder.read_eq source text offset).symm

/-- What has been read of the innermost block: its nodes, and the raw text that waits. -/
def held (s : Scanner) : List Node :=
  s.builder.siblings.reverse.map Node.bare ++
    if s.done = [] then [] else [.raw default (String.ofList s.done.reverse)]

/-- Whether nodes may stand in the innermost block. -/
def TakesNodes (s : Scanner) : Prop :=
  ∀ entry, s.builder.outer.head? = some entry → entry.1.takesNodes

/-! ### Raw text -/

theorem scanFrom_writeRaw (closer : Option String) (start : Nat) (raw : List Char)
    (h : tail.head? = some '#' → raw.getLast? ≠ some '\\') (offset : Nat) (done : List Char) :
    ∃ offset', Segment.scanFrom source closer start (writeRaw raw ++ tail) offset done =
      Segment.scanFrom source closer start tail offset' (raw.reverse ++ done) := by
  induction raw generalizing offset done with
  | nil => exact ⟨offset, rfl⟩
  | cons c raw ih =>
    have hlast : tail.head? = some '#' → raw.getLast? ≠ some '\\' := by
      intro htail hraw
      refine h htail ?_
      rw [List.getLast?_cons, hraw]
      rfl
    rw [writeRaw, List.flatMap_cons, ← writeRaw, List.reverse_cons, List.append_assoc,
      List.append_assoc]
    by_cases hc : c = '#'
    · obtain ⟨offset', hscan⟩ := ih hlast (offset + 2) ('#' :: done)
      refine ⟨offset', ?_⟩
      rw [if_pos hc, List.cons_append, List.cons_append, List.nil_append, Segment.scanFrom, hscan,
        hc]
      rfl
    · obtain ⟨offset', hscan⟩ := ih hlast (offset + c.utf8Size) (c :: done)
      refine ⟨offset', ?_⟩
      rw [if_neg hc, List.cons_append, List.nil_append, Segment.scanFrom, hscan]
      · rfl
      · -- A backslash at the end of raw text is not followed by a `#`.
        rintro rest rfl hrest
        cases raw with
        | nil =>
          change tail = '#' :: rest at hrest
          exact h (by rw [hrest]; rfl) rfl
        | cons d raw =>
          rw [writeRaw, List.flatMap_cons] at hrest
          split at hrest
          · cases hrest
          · rename_i hd
            exact hd (List.cons.inj hrest).1
      · exact hc

/-- Raw text waits for the head behind it. -/
theorem read_writeRaw (raw : List Char) (h : tail.head? = some '#' → raw.getLast? ≠ some '\\') :
    ∃ offset, s.read source (writeRaw raw ++ tail) =
      Scanner.read source { s with offset, done := raw.reverse ++ s.done } tail := by
  obtain ⟨offset, hscan⟩ := scanFrom_writeRaw s.builder.closer s.start raw h s.offset s.done
  refine ⟨offset, ?_⟩
  rw [read, hscan]
  rfl

/-! ### Heads -/

/-- The raw text that waits becomes a node. -/
theorem addText_eq (h : s.done ≠ [] → s.TakesNodes) (stop : Nat) (head : Option Head)
    (rest : List Char) :
    ∃ siblings, siblings.reverse.map Node.bare = s.held ∧
      s.builder.addText source ⟨String.ofList s.done.reverse, s.start, stop, head, rest⟩ =
        .ok ⟨siblings, s.builder.outer⟩ := by
  by_cases hdone : s.done = []
  · refine ⟨s.builder.siblings, ?_, ?_⟩
    · rw [held, if_pos hdone, List.append_nil]
    · rw [hdone]
      rfl
  · have hempty : (String.ofList s.done.reverse).isEmpty = false := by simpa using hdone
    refine ⟨.raw (source.span s.start stop) (String.ofList s.done.reverse) :: s.builder.siblings,
      ?_, ?_⟩
    · rw [held, if_neg hdone, List.reverse_cons, List.map_append]
      rfl
    · unfold Builder.addText
      dsimp only
      rw [hempty]
      rw [if_neg Bool.false_ne_true]
      split
      · rename_i houter
        cases h hdone _ (congrArg List.head? houter)
      · rfl

/-- A head is added behind the raw text that waits. -/
theorem read_head (h : s.done ≠ [] → s.TakesNodes)
    (hrecognize : Head.recognize source s.builder.closer s.offset text =
      .ok (some (head, tail))) :
    ∃ siblings, siblings.reverse.map Node.bare = s.held ∧
      s.read source ('#' :: text) = (do
        let builder ← Builder.addHead source ⟨siblings, s.builder.outer⟩ head
        builder.read source tail head.stop) := by
  obtain ⟨siblings, hheld, htext⟩ := addText_eq h s.offset (some head) tail
  refine ⟨siblings, hheld, ?_⟩
  rw [read, Segment.scanFrom, hrecognize]
  change s.builder.addText source _ >>= _ = _
  rw [htext]
  rfl

/-- At the end of a template, the raw text that waits becomes the last node. -/
theorem read_nil (h : s.builder.outer = []) :
    ∃ nodes, nodes.map Node.bare = s.held ∧ s.read source [] = .ok nodes := by
  have htakes : s.TakesNodes := by
    intro entry hentry
    rw [h] at hentry
    cases hentry
  obtain ⟨siblings, hheld, htext⟩ :=
    @addText_eq source s (fun _ => htakes) s.offset none []
  refine ⟨siblings.reverse, hheld, ?_⟩
  rw [read, Segment.scanFrom]
  change s.builder.addText source _ >>= _ = _
  rw [htext, h]
  rfl

/-! ### Written heads -/

/-- A name that goes on a closing name would start like that one. -/
theorem not_prefix_of_closer (hname : ¬ "end".toList <+: name.toList) (closer : String)
    (hcloser : builder.closer = some closer) : ¬ closer.toList <+: name.toList := by
  intro hprefix
  obtain ⟨entry, -, rfl⟩ := Option.map_eq_some_iff.1 hcloser
  refine hname (List.IsPrefix.trans ?_ hprefix)
  rw [Block.closer, String.toList_append]
  exact List.prefix_append _ _

/-- A head that is written is added behind the raw text that waits. -/
theorem read_writeHead (name : String) (hasBody : Bool) (htakes : s.done ≠ [] → s.TakesNodes)
    (hname : name.toList.all continuesName) (hends : ¬ "end".toList <+: name.toList)
    (hwritten : Written parameters ts) (hbody : hasBody → name ≠ "")
    (htail : hasBody = false → name = "" ∨ tail.head? ≠ some ':') (source : Source) :
    ∃ head siblings, head.Has name ts hasBody ∧ siblings.reverse.map Node.bare = s.held ∧
      s.read source (writeHead name parameters hasBody ++ tail) = (do
        let builder ← Builder.addHead source ⟨siblings, s.builder.outer⟩ head
        builder.read source tail head.stop) := by
  obtain ⟨head, hhead, hrecognize⟩ := Head.recognize_writeHead hname
    (not_prefix_of_closer hends) hwritten hbody htail source s.offset
  obtain ⟨siblings, hheld, hread⟩ := read_head htakes hrecognize
  refine ⟨head, siblings, hhead, hheld, ?_⟩
  rw [← hread, writeHead]
  simp only [List.cons_append, List.append_assoc]

/-- The head that closes a block is read as such. -/
theorem read_writeCloser {block : Block} {before : List Node} {outer : List (Block × List Node)}
    (houter : s.builder.outer = (block, before) :: outer)
    (htakes : s.done ≠ [] → s.TakesNodes) (hname : block.name.toList.all continuesName)
    (htail : tail.head? ≠ some ':' ∧ tail.head? ≠ some '(') (source : Source) :
    ∃ siblings stop, siblings.reverse.map Node.bare = s.held ∧
      s.read source (writeCloser block.name ++ tail) = (do
        let builder ← Builder.close block siblings before outer
        builder.read source tail stop) := by
  have hcloser : s.builder.closer = some ("end" ++ block.name) := by
    rw [Builder.closer, houter]
    rfl
  obtain ⟨head, hhead, hrecognize⟩ := Head.recognize_writeCloser hname htail source s.offset
  obtain ⟨siblings, hheld, hread⟩ := read_head htakes (hcloser ▸ hrecognize)
  refine ⟨siblings, head.stop, hheld, ?_⟩
  rw [writeCloser, List.cons_append, hread, houter, Builder.addHead]
  dsimp only
  rw [if_pos (show head.name = block.closer from hhead)]

/-- An ordinary head starts a node or a block. -/
theorem addHead_eq_start (htakes : s.TakesNodes) (hname : Head.isContinuation head.name = false)
    (source : Source) (siblings : List Node) :
    Builder.addHead source ⟨siblings, s.builder.outer⟩ head = (do
      .ok (Builder.start ⟨siblings, s.builder.outer⟩ (← head.interpret source))) := by
  obtain ⟨⟨hends, helse⟩, helseif⟩ :
      ("end".toList.isPrefixOf head.name.toList = false ∧ head.name ≠ "else") ∧
        head.name ≠ "elseif" := by
    simpa [Head.isContinuation] using hname
  have hother : Builder.addOther source ⟨siblings, s.builder.outer⟩ head = (do
      .ok (Builder.start ⟨siblings, s.builder.outer⟩ (← head.interpret source))) := by
    unfold Builder.addOther
    split
    · rename_i houter
      cases htakes _ (congrArg List.head? houter)
    · dsimp only
      rw [if_neg helseif, if_neg helse]
    · rfl
  unfold Builder.addHead
  split
  · rename_i block before outer houter
    rw [if_neg, hother]
    intro hcloser
    rw [hcloser, Block.closer, String.toList_append] at hends
    exact Bool.false_ne_true (hends.symm.trans
      (List.isPrefixOf_iff_prefix.2 (List.prefix_append ..)))
  · exact hother

/-- An ordinary head that is written starts what it means. -/
theorem read_start (name : String) (hasBody : Bool) (htakes : s.TakesNodes)
    (hname : name.toList.all continuesName) (hcontinuation : Head.isContinuation name = false)
    (hwritten : Written parameters ts) (hbody : hasBody → name ≠ "")
    (htail : hasBody = false → name = "" ∨ tail.head? ≠ some ':') (source : Source) :
    ∃ (head : Head) (before : List Node), head.Has name ts hasBody ∧
      before.reverse.map Node.bare = s.held ∧
      ∀ opening : Opening, head.interpret source = .ok opening →
        s.read source (writeHead name parameters hasBody ++ tail) =
          (Builder.start ⟨before, s.builder.outer⟩ opening).read source tail head.stop := by
  have hends : ¬ "end".toList <+: name.toList := by
    intro hprefix
    rw [Head.isContinuation, List.isPrefixOf_iff_prefix.2 hprefix] at hcontinuation
    cases hcontinuation
  obtain ⟨head, before, hhead, hheld, hread⟩ :=
    read_writeHead name hasBody (fun _ => htakes) hname hends hwritten hbody htail source
  refine ⟨head, before, hhead, hheld, ?_⟩
  intro opening hopening
  rw [hread, addHead_eq_start htakes (hhead.name ▸ hcontinuation), hopening]
  rfl

end Scanner

end Stencil
