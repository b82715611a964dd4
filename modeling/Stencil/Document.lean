/-
Reading templates.

`parse` turns the text of a template into its nodes, `parseBytes` does so for
bytes, which have to be UTF-8:

* **`Builder.read_eq`** — reading step by step.

## Design notes

A `Builder` holds the blocks that are open, the innermost first, each with the
nodes in front of it.  One segment of the template after the other is added
(`Builder.read`): its raw text becomes a node, and its head a node, a block, or
the next part or the end of the innermost block (`Builder.addHead`).  Which
names close a block matters already for the recognition of heads, so the builder
is asked for the closing name before each segment is cut off.
-/
import Stencil.Document.Block
import Stencil.Text.Blank
import Stencil.Text.Encoding

namespace Stencil

/-- What has been read of a template. -/
structure Builder where
  /-- The nodes of the innermost block, the last one first. -/
  siblings : List Node
  /-- The open blocks, the innermost first, each with the nodes in front of it. -/
  outer : List (Block × List Node)

namespace Builder

/-- Nothing has been read. -/
def empty : Builder := ⟨[], []⟩

/-- The name that closes the innermost block. -/
def closer (builder : Builder) : Option String :=
  builder.outer.head?.map fun entry => entry.1.closer

/-- Add a node to the innermost block. -/
def add (builder : Builder) (node : Node) : Builder :=
  { builder with siblings := node :: builder.siblings }

/-- Open a block or add a node. -/
def start (builder : Builder) : Opening → Builder
  | .node node => builder.add node
  | .block block => ⟨[], (block, builder.siblings) :: builder.outer⟩

/-- Add an export to an extend, once the value is complete. -/
def declare (span : Span) (path : String) (exports : List (String × List Node)) (name : String)
    (value : List Node) (opened : Span) : Except ParseError Block :=
  match Keyed.find? name exports with
  | some _ => .error ⟨.exportTwice name, opened⟩
  | none => .ok (.extend span path (Keyed.insert name value exports))

/-- Close a block with the given nodes in it and in front of it. -/
def close (block : Block) (siblings before : List Node) (outer : List (Block × List Node)) :
    Except ParseError Builder :=
  let body := siblings.reverse
  match block with
  | .tag span name parameters => .ok ⟨.tag span name parameters (some body) :: before, outer⟩
  | .loop span key data => .ok ⟨.loop span key data body :: before, outer⟩
  | .chain span _ branches condition _ =>
    .ok ⟨.conditional span (((condition, body) :: branches).reverse) :: before, outer⟩
  | .extend span path exports => .ok ⟨.extend span path exports :: before, outer⟩
  | .exporting span path exports name opened =>
    match declare span path exports name body opened with
    | .error error => .error error
    | .ok block => .ok ⟨[], (block, before) :: outer⟩

/-- Add a head within an extend, between its exports. -/
def addExport (source : Source) (head : Head) (span : Span) (path : String)
    (exports : List (String × List Node)) (before : List Node)
    (outer : List (Block × List Node)) : Except ParseError Builder :=
  if head.name = "export" then do
    let opened := head.span source
    match ← head.interpretExport source with
    | (name, some value) =>
      let block ← declare span path exports name [value] opened
      .ok ⟨[], (block, before) :: outer⟩
    | (name, none) => .ok ⟨[], (.exporting span path exports name opened, before) :: outer⟩
  else .error (head.blame source (.tagInExtend head.name))

/-- Add a head that closes no block: one that goes on a chain, or any other. -/
def addOther (source : Source) (builder : Builder) (head : Head) : Except ParseError Builder :=
  match builder.outer with
  | (.extend span path exports, before) :: outer =>
    addExport source head span path exports before outer
  | (.chain span _ branches condition false, before) :: outer =>
    let opened := head.span source
    let done := (condition, builder.siblings.reverse) :: branches
    if head.name = "elseif" then do
      let next ← head.single source
      .ok ⟨[], (.chain span opened done next false, before) :: outer⟩
    else if head.name = "else" then
      .ok ⟨[], (.chain span opened done (.literal opened (.truth true)) true, before) :: outer⟩
    else do
      .ok (builder.start (← head.interpret source))
  | _ => do
    .ok (builder.start (← head.interpret source))

/-- Add a head. -/
def addHead (source : Source) (builder : Builder) (head : Head) : Except ParseError Builder :=
  match builder.outer with
  | (block, before) :: outer =>
    if head.name = block.closer then close block builder.siblings before outer
    else addOther source builder head
  | [] => addOther source builder head

/-- Add raw text.  Between exports it has to be blank and is left out. -/
def addText (source : Source) (builder : Builder) (segment : Segment) :
    Except ParseError Builder :=
  if segment.text.isEmpty then .ok builder
  else
    let span := source.span segment.start segment.stop
    match builder.outer with
    | (.extend _ _ _, _) :: _ =>
      if segment.text.toList.all isWhite then .ok builder else .error ⟨.textInExtend, span⟩
    | _ => .ok (builder.add (.raw span segment.text))

/-- The nodes of a template that ends here. -/
def finish (builder : Builder) : Except ParseError (List Node) :=
  match builder.outer with
  | [] => .ok builder.siblings.reverse
  | (block, _) :: _ => .error ⟨.unclosedBlock block.name, block.opened⟩

/-- Read the rest of a template, which starts at an offset. -/
def read (source : Source) (builder : Builder) (text : List Char) (offset : Nat) :
    Except ParseError (List Node) :=
  match hscan : Segment.scan source builder.closer text offset with
  | .error error => .error error
  | .ok segment =>
    match builder.addText source segment with
    | .error error => .error error
    | .ok builder =>
      match hhead : segment.head with
      | none => builder.finish
      | some head =>
        have := Segment.scan_length hscan (by simp [hhead])
        match builder.addHead source head with
        | .error error => .error error
        | .ok builder => read source builder segment.rest head.stop
termination_by text.length

/-- Reading step by step: a segment, its text, its head, and the rest. -/
theorem read_eq (source : Source) (builder : Builder) (text : List Char) (offset : Nat) :
    builder.read source text offset = (do
      let segment ← Segment.scan source builder.closer text offset
      let builder ← builder.addText source segment
      match segment.head with
      | none => builder.finish
      | some head => do
        let builder ← builder.addHead source head
        builder.read source segment.rest head.stop) := by
  rw [read]
  split
  · rename_i hscan
    rw [hscan]
    rfl
  · rename_i segment hscan
    conv => rhs; rw [hscan]
    change _ = builder.addText source segment >>= _
    split
    · rename_i htext
      rw [htext]
      rfl
    · rename_i builder htext
      rw [htext]
      change _ = (match segment.head with
        | none => builder.finish
        | some head => _)
      split
      · rename_i hhead
        rw [hhead]
      · rename_i head hhead
        conv => rhs; rw [hhead]
        dsimp only
        cases builder.addHead source head <;> rfl

end Builder

/-- The nodes of a template. -/
def parse (source : Source) : Except ParseError (List Node) :=
  Builder.empty.read source source.text 0

/-- The error of bytes that are not UTF-8.  It starts behind the longest prefix
that is, and covers the bytes that break it. -/
def encodingError (bytes : ByteArray) (label : String) : ParseError :=
  let start := Encoding.firstBreak bytes 0
  let stop := min (start + (Encoding.brokenLength bytes start).getD 1) bytes.size
  let readable := ((String.fromUTF8? (bytes.extract 0 start)).getD "").toList
  ⟨.invalidEncoding, { (Source.mk label readable).span start start with stop }⟩

/-- The nodes of a template that is given as bytes. -/
def parseBytes (bytes : ByteArray) (label : String) : Except ParseError (List Node) :=
  match String.fromUTF8? bytes with
  | some text => parse (Source.ofString label text)
  | none => .error (encodingError bytes label)

end Stencil
