/-
Documents that are written are read.

* **`Scanner.Reads`** — a scanner reads a text as further nodes;
* **`Node.ReadsBack`** — a node is read from its text, wherever it may stand;
* **`Node.Printable.readsBack`** — every printable node is;
* **`parse_writeAll`**, **`parseBytes_writeAll`** — a document that is written is read as
  it was.

## Design notes

A node is read back behind all that may stand in front of it and before all that
may follow, so that sequences are put together from left to right.  A block is
pushed by its head and popped by the head that closes it, and in between only the
innermost nodes change.  The spans of what is read come from the text, so nodes
are compared without them.
-/
import Stencil.Proofs.Printing.Scanner

namespace Stencil

variable {source : Source} {s s' s'' : Scanner} {text text₁ text₂ tail : List Char}
  {nodes nodes₁ nodes₂ before : List Node} {outer : List (Block × List Node)} {offset : Nat}

/-! ### Sequences -/

namespace Scanner

/-- A scanner reads a text in front of a tail as further nodes and becomes another one. -/
structure Reads (source : Source) (s : Scanner) (text tail : List Char) (nodes : List Node)
    (s' : Scanner) : Prop where
  outer : s'.builder.outer = s.builder.outer
  held : s'.held = s.held ++ nodes
  read : s.read source (text ++ tail) = s'.read source tail

theorem Reads.nil : s.Reads source [] tail [] s := ⟨rfl, (List.append_nil _).symm, rfl⟩

theorem Reads.append (h₁ : s.Reads source text₁ (text₂ ++ tail) nodes₁ s')
    (h₂ : s'.Reads source text₂ tail nodes₂ s'') :
    s.Reads source (text₁ ++ text₂) tail (nodes₁ ++ nodes₂) s'' where
  outer := h₂.outer.trans h₁.outer
  held := by rw [h₂.held, h₁.held, List.append_assoc]
  read := by rw [List.append_assoc, h₁.read, h₂.read]

theorem Reads.takesNodes (h : s.Reads source text tail nodes s') (hs : s.TakesNodes) :
    s'.TakesNodes := by
  intro entry hentry
  exact hs entry (h.outer ▸ hentry)

end Scanner

namespace Node

/-- Whether a node is raw text. -/
def isRaw : Node → Bool
  | raw .. => true
  | _ => false

/-- Whether a node may stand in front of a text. -/
structure Admits (node : Node) (tail : List Char) : Prop where
  lets : node.Lets tail.head?
  head : tail.head? = some '#' → node.LetsHead

/-- A node is read from its text, wherever it may stand.  Raw text must not follow raw text. -/
def ReadsBack (node : Node) : Prop :=
  ∀ (source : Source) (s : Scanner) (tail : List Char), s.TakesNodes →
    (node.isRaw → s.done = []) → node.Admits tail →
    ∃ s', s.Reads source node.write tail [node.bare] s' ∧ (node.isRaw = false → s'.done = [])

theorem lets_of_ne {first : Option Char} (hcolon : first ≠ some ':') (hparen : first ≠ some '(')
    (node : Node) : node.Lets first := by
  cases node with
  | raw => trivial
  | tag _ _ _ body => cases body <;> simp [Lets, hcolon, hparen]
  | _ => simp [Lets, hcolon, hparen]

theorem letsHead_of_isRaw {node : Node} (h : node.isRaw = false) : node.LetsHead := by
  cases node with
  | raw => cases h
  | _ => trivial

/-- The text of a printable node begins with a head, unless the node is raw text. -/
theorem Printable.head_write {node : Node} (h : node.Printable) (hraw : node.isRaw = false)
    (tail : List Char) : (node.write ++ tail).head? = some '#' := by
  cases h with
  | raw => cases hraw
  | anonymous => rw [write]; rfl
  | tag => rw [write]; rfl
  | block => rw [write]; rfl
  | loop => rw [write]; rfl
  | extend => rw [write]; rfl
  | imported => rw [write]; rfl
  | embed => rw [write]; rfl
  | @conditional _ branches otherwise hne =>
    obtain ⟨⟨condition, body⟩, branches, rfl⟩ := List.exists_cons_of_ne_nil hne
    rw [write, List.cons_append, writeBranches]
    cases condition <;> rfl

/-- What may follow a node in a sequence may follow it in the text. -/
theorem Fits.admits {node next : Node} (h : node.Fits next) (hnext : next.Printable)
    (tail : List Char) : node.Admits (next.write ++ tail) := by
  cases hraw : next.isRaw with
  | false =>
    have hhead := hnext.head_write hraw tail
    refine ⟨?_, fun _ => ?_⟩
    · rw [hhead]
      exact lets_of_ne (by simp) (by simp) node
    · cases next with
      | raw => cases hraw
      | _ => cases node <;> exact h
  | true =>
    cases hnext with
    | @raw span content hne =>
      have hnode : node.isRaw = false := by
        cases node with
        | raw => exact h.elim
        | _ => rfl
      have hlets : node.Lets content.toList.head? := by
        cases node with
        | raw => cases hnode
        | _ => exact h
      refine ⟨?_, fun _ => letsHead_of_isRaw hnode⟩
      obtain ⟨c, rest, hcontent⟩ : ∃ c rest, content.toList = c :: rest :=
        List.exists_cons_of_ne_nil fun h => hne (String.toList_eq_nil_iff.1 h)
      rw [write, writeRaw, hcontent, List.flatMap_cons]
      split
      · exact lets_of_ne (by simp) (by simp) node
      · rw [hcontent] at hlets
        exact hlets
    | _ => cases hraw

end Node

namespace Scanner

/-- A legible sequence of nodes that are read back is read back. -/
theorem reads_writeAll (hlegible : IsLegible nodes)
    (hnodes : ∀ node ∈ nodes, node.Printable ∧ node.ReadsBack) (source : Source)
    (htakes : s.TakesNodes)
    (hdone : ∀ first, nodes.head? = some first → first.isRaw → s.done = [])
    (hlast : ∀ last, nodes.getLast? = some last → last.Admits tail) :
    ∃ s', s.Reads source (Node.writeAll nodes) tail (nodes.map Node.bare) s' := by
  induction nodes generalizing s with
  | nil => exact ⟨s, .nil⟩
  | cons node nodes ih =>
    have hfirst : node.isRaw → s.done = [] := hdone node rfl
    have hback : node.ReadsBack := (hnodes node (List.mem_cons_self ..)).2
    cases nodes with
    | nil =>
      obtain ⟨s', hreads, -⟩ := hback source s tail htakes hfirst (hlast node rfl)
      refine ⟨s', ?_⟩
      rw [Node.writeAll, Node.writeAll, List.append_nil]
      exact hreads
    | cons next nodes =>
      obtain ⟨hfits, hlegible⟩ := hlegible
      have hadmits := hfits.admits (hnodes next (by simp)).1 (Node.writeAll nodes ++ tail)
      rw [← List.append_assoc] at hadmits
      obtain ⟨s', hreads, hdone'⟩ := hback source s _ htakes hfirst hadmits
      have hnext : next.isRaw → s'.done = [] := by
        intro hraw
        refine hdone' ?_
        cases next with
        | raw =>
          cases node with
          | raw => exact hfits.elim
          | _ => rfl
        | _ => cases hraw
      obtain ⟨s'', hreads'⟩ := ih hlegible (fun node hnode => hnodes node (by simp [hnode]))
        (hreads.takesNodes htakes) (by rintro first ⟨⟩; exact hnext) hlast
      exact ⟨s'', hreads.append hreads'⟩

end Scanner

/-! ### Nodes without a body -/

namespace Node

/-- A node is read back if it is added to the builder. -/
theorem readsBack_of_builder {node : Node}
    (h : ∀ (source : Source) (s : Scanner) (tail : List Char), s.TakesNodes →
      node.Lets tail.head? → ∃ (before : List Node) (added : Node) (stop : Nat),
        before.reverse.map bare = s.held ∧ added.bare = node.bare ∧
        s.read source (node.write ++ tail) =
          Builder.read source ⟨added :: before, s.builder.outer⟩ tail stop) :
    node.ReadsBack := by
  intro source s tail htakes _ hadmits
  obtain ⟨before, added, stop, hbefore, hadded, hread⟩ := h source s tail htakes hadmits.lets
  refine ⟨.fresh ⟨added :: before, s.builder.outer⟩ stop, ⟨rfl, ?_, ?_⟩, fun _ => rfl⟩
  · change (added :: before).reverse.map bare ++ [] = _
    rw [List.append_nil, List.reverse_cons, List.map_append, hbefore, ← hadded]
    rfl
  · rw [hread, Scanner.read_fresh]

theorem readsBack_raw {span : Span} {text : String} (htext : text ≠ "") :
    (raw span text).ReadsBack := by
  intro source s tail htakes hdone hadmits
  obtain ⟨offset, hread⟩ := @Scanner.read_writeRaw source s tail text.toList hadmits.head
  have hnil : s.done = [] := hdone rfl
  have hne : text.toList.reverse ≠ [] := by simpa using htext
  rw [hnil, List.append_nil] at hread
  refine ⟨⟨s.builder, s.start, offset, text.toList.reverse⟩,
    ⟨rfl, ?_, by rw [write, hread]⟩, by rintro ⟨⟩⟩
  unfold Scanner.held
  rw [if_neg hne, if_pos hnil, List.append_nil, List.reverse_reverse, String.ofList_toList]
  rfl

theorem readsBack_tag {span : Span} {name : String} {parameters : List Node}
    (hname : name = "" ∨ IsTagName name) (hparameters : ∀ node ∈ parameters, node.IsVariable) :
    (tag span name parameters none).ReadsBack := by
  refine readsBack_of_builder fun source s tail htakes hlets => ?_
  obtain ⟨ts, hwritten, hderives⟩ := written_parameters hparameters
  have hchars : name.toList.all continuesName := by
    rcases hname with rfl | hname
    · rfl
    · exact List.all_eq_true.2 hname.continues
  obtain ⟨head, before, hhead, hheld, hread⟩ := Scanner.read_start name false htakes hchars
    (Head.isContinuation_of_isTagName hname) hwritten (by simp) (fun _ => hlets) source
  obtain ⟨span', parameters', hparameters', hinterpret⟩ := hhead.interpret_tag hname hderives source
  refine ⟨before, .tag span' name parameters' none, head.stop, hheld, ?_, ?_⟩
  · rw [bare_tag, bare_tag, hparameters']
  · rw [write, hread _ hinterpret]
    rfl

theorem readsBack_embed {span : Span} {target : Node} (htarget : target.IsVariable) :
    (embed span target).ReadsBack := by
  refine readsBack_of_builder fun source s tail htakes hlets => ?_
  obtain ⟨ts, hwritten, hderives⟩ := htarget.written_single
  obtain ⟨head, before, hhead, hheld, hread⟩ := Scanner.read_start "embed" false htakes
    (by decide) (by decide) hwritten (by simp) (fun _ => .inr hlets) source
  obtain ⟨span', target', htarget', hinterpret⟩ := hhead.interpret_embed hderives source
  refine ⟨before, .embed span' target', head.stop, hheld, ?_, ?_⟩
  · rw [bare, bare, htarget']
  · rw [write, hread _ hinterpret]
    rfl

theorem readsBack_imported {span : Span} {name : String} : (imported span name).ReadsBack := by
  refine readsBack_of_builder fun source s tail htakes hlets => ?_
  obtain ⟨head, before, hhead, hheld, hread⟩ := Scanner.read_start "import" false htakes
    (by decide) (by decide) (written_string name).1 (by simp)
    (fun _ => .inr hlets) source
  obtain ⟨span', hinterpret⟩ := hhead.interpret_import source
  refine ⟨before, .imported span' name, head.stop, hheld, rfl, ?_⟩
  rw [write, hread _ hinterpret]
  rfl

end Node

/-! ### Bodies -/

/-- A body that is read back in front of the head that ends it. -/
structure BodyReadsBack (body : List Node) : Prop where
  isBody : IsBody body
  nodes : ∀ node ∈ body, node.Printable ∧ node.ReadsBack

namespace Builder

/-- A body is read into a block that is open, up to the head that ends it. -/
theorem read_body (block : Block) (before : List Node) (outer : List (Block × List Node))
    (hblock : block.takesNodes) {body : List Node} (hbody : BodyReadsBack body)
    (htail : tail.head? = some '#') (source : Source) (offset : Nat) :
    ∃ s : Scanner, s.builder.outer = (block, before) :: outer ∧ s.held = body.map Node.bare ∧
      s.TakesNodes ∧
      Builder.read source ⟨[], (block, before) :: outer⟩ (Node.writeAll body ++ tail) offset =
        s.read source tail := by
  have htakes : (Scanner.fresh ⟨[], (block, before) :: outer⟩ offset).TakesNodes := by
    rintro entry ⟨⟩
    exact hblock
  have hadmits : ∀ last, body.getLast? = some last → last.Admits tail := by
    intro last hlast
    refine ⟨?_, fun _ => hbody.isBody.last last hlast⟩
    rw [htail]
    exact Node.lets_of_ne (by simp) (by simp) last
  obtain ⟨s, hreads⟩ := Scanner.reads_writeAll hbody.isBody.legible hbody.nodes source
    htakes (fun _ _ _ => rfl) hadmits
  exact ⟨s, hreads.outer, hreads.held, hreads.takesNodes htakes,
    (Scanner.read_fresh ..).symm.trans hreads.read⟩

/-- A body is read into a block that is open, and the block is closed. -/
theorem read_block (block : Block) (before : List Node) (outer : List (Block × List Node))
    (hblock : block.takesNodes) {body : List Node} (hbody : BodyReadsBack body)
    (hname : block.name.toList.all continuesName)
    (htail : tail.head? ≠ some ':' ∧ tail.head? ≠ some '(') (source : Source) (offset : Nat) :
    ∃ siblings stop, siblings.reverse.map Node.bare = body.map Node.bare ∧
      Builder.read source ⟨[], (block, before) :: outer⟩
          (Node.writeAll body ++ (writeCloser block.name ++ tail)) offset = (do
        let builder ← Builder.close block siblings before outer
        builder.read source tail stop) := by
  obtain ⟨s, houter, hheld, htakes, hread⟩ := @read_body (writeCloser block.name ++ tail) block
    before outer hblock body hbody rfl source offset
  obtain ⟨siblings, stop, hsiblings, hclose⟩ :=
    Scanner.read_writeCloser houter (fun _ => htakes) hname htail source
  exact ⟨siblings, stop, hsiblings.trans hheld, hread.trans hclose⟩

end Builder

/-! ### Blocks -/

namespace Node

theorem readsBack_block {span : Span} {name : String} {parameters body : List Node}
    (hname : IsTagName name) (hparameters : ∀ node ∈ parameters, node.IsVariable)
    (hbody : BodyReadsBack body) : (tag span name parameters (some body)).ReadsBack := by
  refine readsBack_of_builder fun source s tail htakes hlets => ?_
  obtain ⟨ts, hwritten, hderives⟩ := written_parameters hparameters
  have hchars : name.toList.all continuesName := List.all_eq_true.2 hname.continues
  obtain ⟨head, before, hhead, hheld, hread⟩ := Scanner.read_start name true htakes hchars
    (Head.isContinuation_of_isTagName (.inr hname)) hwritten (fun _ => hname.nonempty)
    (by simp) source
  obtain ⟨span', parameters', hparameters', hinterpret⟩ :=
    hhead.interpret_tag (.inr hname) hderives source
  obtain ⟨siblings, stop, hsiblings, hclose⟩ := Builder.read_block (.tag span' name parameters')
    before s.builder.outer rfl hbody hchars hlets source head.stop
  refine ⟨before, .tag span' name parameters' (some siblings.reverse), stop, hheld, ?_, ?_⟩
  · rw [bare_tag, bare_tag, hparameters', Option.map_some, hsiblings, Option.map_some]
  · rw [write, List.append_assoc, List.append_assoc, hread _ hinterpret]
    exact hclose

theorem readsBack_loop {span span' : Span} {key : String} {data : Node} {body : List Node}
    (hkey : IsKey key) (hdata : data.IsVariable) (hbody : BodyReadsBack body) :
    (loop span (.path span' [key]) data body).ReadsBack := by
  refine readsBack_of_builder fun source s tail htakes hlets => ?_
  obtain ⟨ts, hwritten, hderives⟩ := written_loop hkey hdata
  have hname : "for".toList.all continuesName := by decide
  obtain ⟨head, before, hhead, hheld, hread⟩ := Scanner.read_start "for" true htakes hname
    (by decide) hwritten (by simp) (by simp) source
  obtain ⟨span'', key', data', hkey', hdata', hinterpret⟩ := hhead.interpret_for hderives source
  obtain ⟨siblings, stop, hsiblings, hclose⟩ := Builder.read_block (.loop span'' key' data')
    before s.builder.outer rfl hbody hname hlets source head.stop
  refine ⟨before, .loop span'' key' data' siblings.reverse, stop, hheld, ?_, ?_⟩
  · simp only [bare, bareAll_eq_map, hkey', hdata', hsiblings]
  · have htext : (loop span (.path span' [key]) data body).write ++ tail =
        writeHead "for" (key.toList ++ " in ".toList ++ data.writeVariable) true ++
          (writeAll body ++ (writeCloser "for" ++ tail)) := by
      rw [write, writeVariable, writeKeys, List.flatMap_nil, List.append_nil]
      simp only [List.append_assoc]
    rw [htext, hread _ hinterpret]
    exact hclose

end Node

/-! ### Chains -/

theorem writeBranch_of_isVariable {condition : Node} (h : condition.IsVariable) (name : String) :
    writeBranch name condition = writeHead name condition.writeVariable true := by
  cases condition with
  | literal => exact h.elim
  | _ => rfl

namespace Builder

variable {span opened : Span} {head : Head} {condition : Node} {siblings : List Node}
  {done : List (Node × List Node)}

/-- A head that does not close the innermost block goes on it or starts something. -/
theorem addHead_of_ne {block : Block} (h : head.name ≠ block.closer) :
    addHead source ⟨siblings, (block, before) :: outer⟩ head =
      addOther source ⟨siblings, (block, before) :: outer⟩ head := if_neg h

theorem addHead_elseif (hname : head.name = "elseif") {next : Node}
    (hsingle : head.single source = .ok next) :
    addHead source ⟨siblings, (.chain span opened done condition false, before) :: outer⟩ head =
      .ok ⟨[], (.chain span (head.span source) ((condition, siblings.reverse) :: done) next false,
        before) :: outer⟩ := by
  have hcloser : head.name ≠ (Block.chain span opened done condition false).closer := by
    rw [hname]
    change "elseif" ≠ "end" ++ "if"
    decide
  rw [addHead_of_ne hcloser, addOther]
  dsimp only
  rw [if_pos hname, hsingle]
  rfl

theorem addHead_else (hname : head.name = "else") :
    addHead source ⟨siblings, (.chain span opened done condition false, before) :: outer⟩ head =
      .ok ⟨[], (.chain span (head.span source) ((condition, siblings.reverse) :: done)
        (.literal (head.span source) (.truth true)) true, before) :: outer⟩ := by
  have hcloser : head.name ≠ (Block.chain span opened done condition false).closer := by
    rw [hname]
    change "else" ≠ "end" ++ "if"
    decide
  have helseif : head.name ≠ "elseif" := by
    rw [hname]
    decide
  rw [addHead_of_ne hcloser, addOther]
  dsimp only
  rw [if_neg helseif, if_pos hname]

variable {body : List Node}

/-- The body of an open branch is read, and the head of the next branch. -/
theorem read_elseif (hbody : BodyReadsBack body) {next : Node} (hnext : next.IsVariable)
    (tail : List Char) (source : Source) (offset : Nat) :
    ∃ (siblings : List Node) (next' : Node) (opened' : Span) (stop : Nat),
      siblings.reverse.map Node.bare = body.map Node.bare ∧ next'.bare = next.bare ∧
      Builder.read source ⟨[], (.chain span opened done condition false, before) :: outer⟩
          (Node.writeAll body ++ (writeBranch "elseif" next ++ tail)) offset =
        Builder.read source ⟨[], (.chain span opened' ((condition, siblings.reverse) :: done) next'
          false, before) :: outer⟩ tail stop := by
  obtain ⟨ts, hwritten, hderives⟩ := hnext.written_single
  obtain ⟨s, houter, hheld, htakes, hread⟩ :=
    @read_body (writeHead "elseif" next.writeVariable true ++ tail)
      (.chain span opened done condition false) before outer rfl body hbody rfl source offset
  obtain ⟨head, siblings, hhead, hsiblings, hread'⟩ := Scanner.read_writeHead "elseif" true
    (fun _ => htakes) (by decide) (by decide) hwritten (by simp) (by simp) source
  obtain ⟨next', hsingle, hnext'⟩ := hhead.single hderives source
  refine ⟨siblings, next', head.span source, head.stop, hsiblings.trans hheld, hnext', ?_⟩
  rw [writeBranch_of_isVariable hnext, hread, hread', houter, addHead_elseif hhead.name hsingle]
  rfl

/-- The body of an open branch is read, and the else behind it. -/
theorem read_else (hbody : BodyReadsBack body) (tail : List Char) (source : Source)
    (offset : Nat) :
    ∃ (siblings : List Node) (opened' : Span) (stop : Nat),
      siblings.reverse.map Node.bare = body.map Node.bare ∧
      Builder.read source ⟨[], (.chain span opened done condition false, before) :: outer⟩
          (Node.writeAll body ++ ("#else:".toList ++ tail)) offset =
        Builder.read source ⟨[], (.chain span opened' ((condition, siblings.reverse) :: done)
          (.literal opened' (.truth true)) true, before) :: outer⟩ tail stop := by
  obtain ⟨s, houter, hheld, htakes, hread⟩ := @read_body ("#else:".toList ++ tail)
    (.chain span opened done condition false) before outer rfl body hbody rfl source offset
  have hcloser : s.builder.closer = some "endif" := by
    rw [Builder.closer, houter]
    rfl
  obtain ⟨head, hhead, hrecognize⟩ := Head.recognize_else tail source s.offset
  obtain ⟨siblings, hsiblings, hread'⟩ :=
    Scanner.read_head (fun _ => htakes) (hcloser ▸ hrecognize)
  rw [houter, addHead_else hhead] at hread'
  exact ⟨siblings, head.span source, head.stop, hsiblings.trans hheld, hread.trans hread'⟩

/-- The rest of a chain is read: the open branch, the branches behind it, and an else. -/
theorem read_chain {branches otherwise : List (Node × List Node)}
    (hvariables : ∀ branch ∈ branches, branch.1.IsVariable)
    (hotherwise : otherwise = [] ∨
      ∃ span body, otherwise = [(.literal span (.truth true), body)])
    (hbody : BodyReadsBack body)
    (hbodies : ∀ branch ∈ branches ++ otherwise, BodyReadsBack branch.2)
    (htail : tail.head? ≠ some ':' ∧ tail.head? ≠ some '(') (source : Source)
    (span opened : Span) (condition : Node) (done : List (Node × List Node)) (offset : Nat) :
    ∃ closed stop, Node.bareBranches closed =
        Node.bareBranches (done.reverse ++ (condition, body) :: (branches ++ otherwise)) ∧
      Builder.read source ⟨[], (.chain span opened done condition false, before) :: outer⟩
          (Node.writeAll body ++ (Node.writeBranches "elseif" (branches ++ otherwise) ++
            (writeCloser "if" ++ tail))) offset =
        Builder.read source ⟨.conditional span closed :: before, outer⟩ tail stop := by
  have hif : "if".toList.all continuesName := by decide
  -- One branch is completed at a time, so the open one and those before it vary.
  induction branches generalizing body opened condition done offset with
  | nil =>
    rcases hotherwise with rfl | ⟨span', otherwise, rfl⟩
    · obtain ⟨siblings, stop, hsiblings, hclose⟩ := read_block
        (.chain span opened done condition false) before outer rfl hbody hif htail source offset
      refine ⟨((condition, siblings.reverse) :: done).reverse, stop, ?_, hclose⟩
      simp [hsiblings]
    · have hlast : BodyReadsBack otherwise := hbodies _ (List.mem_singleton_self _)
      obtain ⟨siblings, opened', stop, hsiblings, helse⟩ := read_else hbody
        (Node.writeAll otherwise ++ (writeCloser "if" ++ tail)) source offset
      obtain ⟨siblings', stop', hsiblings', hclose⟩ := read_block
        (.chain span opened' ((condition, siblings.reverse) :: done)
          (.literal opened' (.truth true)) true) before outer rfl hlast hif htail source stop
      refine ⟨((.literal opened' (.truth true), siblings'.reverse) ::
        (condition, siblings.reverse) :: done).reverse, stop', ?_, ?_⟩
      · simp [hsiblings, hsiblings', Node.bare]
      · rw [List.nil_append, Node.writeBranches, Node.writeBranches, List.append_nil,
          List.append_assoc]
        exact helse.trans hclose
  | cons branch branches ih =>
    obtain ⟨next, body'⟩ := branch
    obtain ⟨hnext, hvariables⟩ := List.forall_mem_cons.1 hvariables
    obtain ⟨hbody', hbodies⟩ := List.forall_mem_cons.1 hbodies
    obtain ⟨siblings, next', opened', stop, hsiblings, hnext', hread⟩ := read_elseif hbody hnext
      (Node.writeAll body' ++ (Node.writeBranches "elseif" (branches ++ otherwise) ++
        (writeCloser "if" ++ tail))) source offset
    obtain ⟨closed, stop', hclosed, hrest⟩ := ih hvariables hbody' hbodies opened' next'
      ((condition, siblings.reverse) :: done) stop
    refine ⟨closed, stop', ?_, ?_⟩
    · rw [hclosed]
      simp [hsiblings, hnext']
    · rw [List.cons_append, Node.writeBranches, List.append_assoc, List.append_assoc]
      exact hread.trans hrest

/-! ### Exports -/

variable {path name : String} {exports : List (String × List Node)}

theorem addHead_export (hhead : head.Has "export" [.text name] true) :
    addHead source ⟨siblings, (.extend span path exports, before) :: outer⟩ head =
      .ok ⟨[], (.exporting span path exports name (head.span source), before) :: outer⟩ := by
  have hcloser : head.name ≠ (Block.extend span path exports).closer := by
    rw [hhead.name]
    change "export" ≠ "end" ++ "extend"
    decide
  rw [addHead_of_ne hcloser, addOther]
  dsimp only
  rw [addExport, if_pos hhead.name, hhead.interpretExport]
  rfl

/-- One export is read, with a name above those of the exports before it. -/
theorem read_export (habove : ∀ entry ∈ exports, entry.1 < name) {value : List Node}
    (hvalue : BodyReadsBack value) (htail : tail.head? = some '#') (source : Source)
    (offset : Nat) :
    ∃ (siblings : List Node) (stop : Nat),
      siblings.reverse.map Node.bare = value.map Node.bare ∧
      Builder.read source ⟨[], (.extend span path exports, before) :: outer⟩
          (writeHead "export" (writeString name) true ++ (Node.writeAll value ++
            (writeCloser "export" ++ tail))) offset =
        Builder.read source ⟨[], (.extend span path (exports ++ [(name, siblings.reverse)]),
          before) :: outer⟩ tail stop := by
  have hexport : "export".toList.all continuesName := by decide
  obtain ⟨head, siblings, hhead, -, hread⟩ := @Scanner.read_writeHead
    (.fresh ⟨[], (.extend span path exports, before) :: outer⟩ offset)
    (Node.writeAll value ++ (writeCloser "export" ++ tail)) _ _ "export" true
    (fun h => absurd rfl h) hexport (by decide) (written_string name).1 (by simp) (by simp) source
  have hopen : Builder.addHead source ⟨siblings, (.extend span path exports, before) :: outer⟩
      head = .ok ⟨[], (.exporting span path exports name (head.span source), before) :: outer⟩ :=
    addHead_export hhead
  obtain ⟨siblings', stop, hsiblings', hclose⟩ := read_block
    (.exporting span path exports name (head.span source)) before outer rfl hvalue hexport
    (by rw [htail]; simp) source head.stop
  obtain ⟨hfind, hinsert⟩ := Keyed.insert_of_forall_lt habove siblings'.reverse
  have hdeclare : Builder.close (.exporting span path exports name (head.span source)) siblings'
      before outer =
        .ok ⟨[], (.extend span path (exports ++ [(name, siblings'.reverse)]), before) ::
          outer⟩ := by
    rw [Builder.close, declare, hfind, hinsert]
  refine ⟨siblings', stop, hsiblings', ?_⟩
  rw [← Scanner.read_fresh, hread, Scanner.fresh, hopen]
  refine hclose.trans ?_
  rw [hdeclare]
  rfl

/-- The exports of an extend are read behind those that it has already. -/
theorem read_exports {done : List (String × List Node)}
    (hnames : ((done ++ exports).map Prod.fst).Pairwise (· < ·))
    (hbodies : ∀ entry ∈ exports, BodyReadsBack entry.2)
    (htail : tail.head? ≠ some ':' ∧ tail.head? ≠ some '(') (source : Source)
    (span : Span) (path : String) (offset : Nat) :
    ∃ closed stop, Node.bareExports closed = Node.bareExports (done ++ exports) ∧
      Builder.read source ⟨[], (.extend span path done, before) :: outer⟩
          (Node.writeExports exports ++ (writeCloser "extend" ++ tail)) offset =
        Builder.read source ⟨.extend span path closed :: before, outer⟩ tail stop := by
  have hextend : "extend".toList.all continuesName := by decide
  induction exports generalizing done offset with
  | nil =>
    obtain ⟨siblings, stop, -, hclose⟩ := @Scanner.read_writeCloser
      (.fresh ⟨[], (.extend span path done, before) :: outer⟩ offset) tail
      (.extend span path done) before outer rfl (fun h => absurd rfl h) hextend htail source
    refine ⟨done, stop, by rw [List.append_nil], ?_⟩
    rw [← Scanner.read_fresh]
    exact hclose
  | cons entry exports ih =>
    obtain ⟨name, value⟩ := entry
    obtain ⟨hvalue, hbodies⟩ := List.forall_mem_cons.1 hbodies
    have habove : ∀ entry ∈ done, entry.1 < name := by
      intro entry hentry
      rw [List.map_append] at hnames
      exact (List.pairwise_append.1 hnames).2.2 _ (List.mem_map_of_mem hentry) _ (by simp)
    -- Behind the export stands another one, or the head that closes the extend.
    have hrest : (Node.writeExports exports ++ (writeCloser "extend" ++ tail)).head? =
        some '#' := by
      cases exports <;> rfl
    obtain ⟨siblings, stop, hsiblings, hread⟩ := read_export habove hvalue hrest source offset
    obtain ⟨closed, stop', hclosed, hread'⟩ := @ih (done ++ [(name, siblings.reverse)])
      (by simpa using hnames) hbodies stop
    refine ⟨closed, stop', ?_, ?_⟩
    · rw [hclosed]
      simp [hsiblings]
    · rw [Node.writeExports, List.append_assoc, List.append_assoc, List.append_assoc]
      exact hread.trans hread'

end Builder

/-! ### All nodes -/

namespace Node

theorem readsBack_conditional {span : Span} {branches otherwise : List (Node × List Node)}
    (hne : branches ≠ []) (hvariables : ∀ branch ∈ branches, branch.1.IsVariable)
    (hotherwise : otherwise = [] ∨ ∃ span body, otherwise = [(.literal span (.truth true), body)])
    (hbodies : ∀ branch ∈ branches ++ otherwise, BodyReadsBack branch.2) :
    (conditional span (branches ++ otherwise)).ReadsBack := by
  refine readsBack_of_builder fun source s tail htakes hlets => ?_
  obtain ⟨⟨condition, body⟩, branches, rfl⟩ := List.exists_cons_of_ne_nil hne
  obtain ⟨hcondition, hvariables⟩ := List.forall_mem_cons.1 hvariables
  obtain ⟨hbody, hbodies⟩ := List.forall_mem_cons.1 hbodies
  obtain ⟨ts, hwritten, hderives⟩ := hcondition.written_single
  obtain ⟨head, before, hhead, hheld, hread⟩ := Scanner.read_start "if" true htakes (by decide)
    (by decide) hwritten (by simp) (by simp) source
  obtain ⟨span', condition', hcondition', hinterpret⟩ := hhead.interpret_if hderives source
  obtain ⟨closed, stop, hclosed, hrest⟩ := Builder.read_chain hvariables hotherwise hbody hbodies
    hlets source span' span' condition' [] head.stop
  refine ⟨before, .conditional span' closed, stop, hheld, ?_, ?_⟩
  · rw [bare, bare, hclosed, List.reverse_nil, List.nil_append, List.cons_append, bareBranches,
      bareBranches, hcondition']
  · rw [write, List.cons_append, writeBranches, writeBranch_of_isVariable hcondition,
      List.append_assoc, List.append_assoc, List.append_assoc, hread _ hinterpret]
    exact hrest

theorem readsBack_extend {span : Span} {path : String} {exports : List (String × List Node)}
    (hnames : (exports.map Prod.fst).Pairwise (· < ·))
    (hbodies : ∀ entry ∈ exports, BodyReadsBack entry.2) :
    (extend span path exports).ReadsBack := by
  refine readsBack_of_builder fun source s tail htakes hlets => ?_
  have hname : "extend".toList.all continuesName := by decide
  cases exports with
  | nil =>
    obtain ⟨head, before, hhead, hheld, hread⟩ := Scanner.read_start "extend" false htakes hname
      (by decide) (written_string path).1 (by simp) (fun _ => .inr hlets.1) source
    obtain ⟨span', hinterpret⟩ := hhead.interpret_extend source
    refine ⟨before, .extend span' path [], head.stop, hheld, rfl, ?_⟩
    rw [write, writeExports, List.nil_append, List.append_assoc]
    exact hread _ hinterpret
  | cons entry exports =>
    obtain ⟨head, before, hhead, hheld, hread⟩ := Scanner.read_start "extend" true htakes hname
      (by decide) (written_string path).1 (by simp) (by simp) source
    obtain ⟨span', hinterpret⟩ := hhead.interpret_extend source
    obtain ⟨closed, stop, hclosed, hrest⟩ := @Builder.read_exports tail before s.builder.outer
      (entry :: exports) [] hnames hbodies ⟨hlets.1, hlets.2 (List.cons_ne_nil _ _)⟩ source span'
      path head.stop
    refine ⟨before, .extend span' path closed, stop, hheld, ?_, ?_⟩
    · rw [bare, bare, hclosed, List.nil_append]
    · rw [write, List.append_assoc, List.append_assoc]
      exact (hread _ hinterpret).trans hrest

/-- **A printable node is read from its text, wherever it may stand.** -/
theorem Printable.readsBack {node : Node} (h : node.Printable) : node.ReadsBack := by
  induction h with
  | raw htext => exact readsBack_raw htext
  | anonymous hparameters => exact readsBack_tag (.inl rfl) hparameters
  | tag hname hparameters => exact readsBack_tag (.inr hname) hparameters
  | block hname hparameters hbody hnodes ih =>
    exact readsBack_block hname hparameters ⟨hbody, fun node hnode => ⟨hnodes node hnode,
      ih node hnode⟩⟩
  | conditional hne hvariables hotherwise hbodies hnodes ih =>
    refine readsBack_conditional hne hvariables hotherwise fun branch hbranch => ?_
    exact ⟨hbodies branch hbranch, fun node hnode => ⟨hnodes branch hbranch node hnode,
      ih branch hbranch node hnode⟩⟩
  | loop hkey hdata hbody hnodes ih =>
    exact readsBack_loop hkey hdata ⟨hbody, fun node hnode => ⟨hnodes node hnode,
      ih node hnode⟩⟩
  | extend hnames hbodies hnodes ih =>
    refine readsBack_extend hnames fun entry hentry => ?_
    exact ⟨hbodies entry hentry, fun node hnode => ⟨hnodes entry hentry node hnode,
      ih entry hentry node hnode⟩⟩
  | imported => exact readsBack_imported
  | embed htarget => exact readsBack_embed htarget

end Node

/-! ### Documents -/

theorem parse_writeAll {nodes : List Node} (h : IsDocument nodes) (label : String) :
    ∃ parsed, parse ⟨label, Node.writeAll nodes⟩ = .ok parsed ∧
      parsed.map Node.bare = nodes.map Node.bare := by
  have hnodes : ∀ node ∈ nodes, node.Printable ∧ node.ReadsBack :=
    fun node hnode => ⟨h.printable node hnode, (h.printable node hnode).readsBack⟩
  obtain ⟨s, hreads⟩ := @Scanner.reads_writeAll (.fresh .empty 0) [] nodes h.legible hnodes
    ⟨label, Node.writeAll nodes⟩ (by rintro entry ⟨⟩) (fun _ _ _ => rfl)
    fun last _ => ⟨Node.lets_of_ne (by simp) (by simp) last, by rintro ⟨⟩⟩
  obtain ⟨parsed, hparsed, hnil⟩ :=
    @Scanner.read_nil ⟨label, Node.writeAll nodes⟩ s hreads.outer
  refine ⟨parsed, ?_, hparsed.trans hreads.held⟩
  have hread := hreads.read
  rw [List.append_nil, Scanner.read_fresh, hnil] at hread
  exact hread

/-- **A document that is written is read as it was, but for the places.** -/
theorem parseBytes_writeAll {nodes : List Node} (h : IsDocument nodes) (label : String) :
    ∃ parsed, parseBytes (String.ofList (Node.writeAll nodes)).toByteArray label = .ok parsed ∧
      parsed.map Node.bare = nodes.map Node.bare := by
  have hparse : parseBytes (String.ofList (Node.writeAll nodes)).toByteArray label =
      parse ⟨label, Node.writeAll nodes⟩ := by
    have hdecode (text : String) : String.fromUTF8? text.toByteArray = some text :=
      dif_pos text.isValidUTF8
    rw [parseBytes, hdecode]
    dsimp only
    rw [Source.ofString, String.toList_ofList]
  rw [hparse]
  exact parse_writeAll h label

/-- A chain whose else holds an extend, with text behind the closing head. -/
def nestedDocument : List Node :=
  [.conditional default ([(.path default ["x"], [.raw default "a#b"])] ++
      [(.literal default (.truth true), [.extend default "base"
        [("body", [.tag default "" [.path default ["x", "y"]] none])]])]),
    .raw default "Text"]

theorem isDocument_nestedDocument : IsDocument nestedDocument := by
  have hx : IsKey "x" := isKey_of_letter (c := 'x') (by decide) (by decide)
  have hy : IsKey "y" := isKey_of_letter (c := 'y') (by decide) (by decide)
  have hcondition : (Node.path default ["x"]).IsVariable := ⟨by simp, by simp [hx]⟩
  have htag : (Node.tag default "" [.path default ["x", "y"]] none).Printable :=
    .anonymous (List.forall_mem_singleton.2 ⟨by simp, by simp [hx, hy]⟩)
  have hextend : (Node.extend default "base"
      [("body", [.tag default "" [.path default ["x", "y"]] none])]).Printable := by
    refine .extend (by simp) ?_ ?_
    · exact List.forall_mem_singleton.2 ⟨trivial, by rintro last ⟨⟩; trivial⟩
    · exact List.forall_mem_singleton.2 (List.forall_mem_singleton.2 htag)
  have hchain : ∀ node, nestedDocument.head? = some node → node.Printable := by
    rintro node ⟨⟩
    refine .conditional (List.cons_ne_nil _ _) (List.forall_mem_singleton.2 hcondition)
      (.inr ⟨_, _, rfl⟩) ?_ ?_
    · refine List.forall_mem_cons.2 ⟨⟨trivial, ?_⟩, List.forall_mem_singleton.2 ⟨trivial, ?_⟩⟩
      · rintro last ⟨⟩
        change "a#b".toList.getLast? ≠ some '\\'
        decide
      · rintro last ⟨⟩
        trivial
    · refine List.forall_mem_cons.2 ⟨?_, List.forall_mem_singleton.2 ?_⟩
      · exact List.forall_mem_singleton.2 (.raw (by decide))
      · exact List.forall_mem_singleton.2 hextend
  refine ⟨⟨?_, trivial⟩, ?_⟩
  · change "Text".toList.head? ≠ some ':' ∧ "Text".toList.head? ≠ some '('
    decide
  · exact List.forall_mem_cons.2 ⟨hchain _ rfl, List.forall_mem_singleton.2 (.raw (by decide))⟩

theorem parseBytes_writeAll_nested : IsDocument nestedDocument ∧
    Node.writeAll nestedDocument = ("#if(x):a\\#b#else:#extend(\"base\"):#export(\"body\"):" ++
      "#(x.y)#endexport#endextend#endifText").toList ∧
    ∃ parsed, parseBytes (String.ofList (Node.writeAll nestedDocument)).toByteArray "page" =
        .ok parsed ∧ parsed.map Node.bare = nestedDocument.map Node.bare :=
  ⟨isDocument_nestedDocument, by decide, parseBytes_writeAll isDocument_nestedDocument "page"⟩

end Stencil
