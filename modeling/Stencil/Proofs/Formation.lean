/-
What the nodes of templates are like.

A tree can hold nodes that no template can spell: a loop over several names, a
conjunction in front of its operand, a node of the host.  Reading a template makes
none of them.

* **`Node.Formed`** — a node that a template can spell, apart from its children;
* **`Reader.Formed.step`**, **`Reader.Formed.run`** — reading parameters keeps to
  such nodes;
* **`Builder.Formed.read`** — reading a document does;
* **`parse_formed`** — every node of a template that is read is such a node.
-/
import Stencil.Proofs.Blocks
import Stencil.Proofs.Occurrence
import Stencil.Proofs.Steps

namespace Stencil

/-- What templates can spell: a loop binds one name, an infix operator stands between two
operands and a sign in front of one.  Nothing stands behind its operand, and nothing comes
from the host. -/
def Node.Formed : Node → Prop
  | .loop _ key _ _ => ∃ place name, key = .path place [name]
  | .binary _ op _ _ => 0 < op.strength
  | .signed _ op _ => op.isSign
  | .suffixed .. | .host .. => False
  | _ => True

/-- All nodes of a sequence are formed, at any depth. -/
def AllFormed (nodes : List Node) : Prop := ∀ node ∈ nodes, node.Throughout Node.Formed

theorem allFormed_nil : AllFormed [] := fun node hnode => absurd hnode (by simp)

theorem AllFormed.reverse {nodes : List Node} (h : AllFormed nodes) : AllFormed nodes.reverse :=
  fun node hnode => h node (List.mem_reverse.1 hnode)

/-- A node without children that can be spelled. -/
theorem Node.throughout_formed_leaf {node : Node} (h : node.Formed) (hnone : node.children = []) :
    node.Throughout Formed :=
  .of_children h (hnone ▸ allFormed_nil)

variable {source : Source}

/-! ### Expressions -/

theorem applySigns_formed {signs : List (Operator × Nat)} {node : Node}
    (hsigns : ∀ sign ∈ signs, sign.1.isSign) (hnode : node.Throughout Node.Formed) :
    (applySigns source signs node).Throughout Node.Formed := by
  induction signs generalizing node with
  | nil => exact hnode
  | cons sign signs ih =>
    obtain ⟨op, start⟩ := sign
    obtain ⟨hop, hsigns⟩ := List.forall_mem_cons.1 hsigns
    exact ih hsigns (.of_children hop (List.forall_mem_singleton.2 hnode))

/-- What waits for its right side: operands in front of infix operators. -/
def LeftsFormed (lefts : List (Node × Operator)) : Prop :=
  ∀ left ∈ lefts, left.1.Throughout Node.Formed ∧ 0 < left.2.strength

theorem reduce_formed (strength : Nat) {lefts : List (Node × Operator)} {node : Node}
    (hlefts : LeftsFormed lefts) (hnode : node.Throughout Node.Formed) :
    LeftsFormed (reduce source strength lefts node).1 ∧
      (reduce source strength lefts node).2.Throughout Node.Formed := by
  induction lefts generalizing node with
  | nil => exact ⟨hlefts, hnode⟩
  | cons left lefts ih =>
    obtain ⟨left, op⟩ := left
    obtain ⟨⟨hleft, hop⟩, hrest⟩ := List.forall_mem_cons.1 hlefts
    rw [reduce]
    split
    · refine ih hrest (.of_children hop ?_)
      exact List.forall_mem_cons.2 ⟨hleft, List.forall_mem_singleton.2 hnode⟩
    · exact ⟨hlefts, hnode⟩

theorem callNode_formed {span : Span} {name : String} {arguments : List Node}
    (harguments : AllFormed arguments) :
    (callNode span name arguments).1.Throughout Node.Formed := by
  unfold callNode
  split
  · split <;> exact Node.throughout_formed_leaf trivial rfl
  · exact .of_children trivial (by simpa [Node.children, AllFormed] using harguments)

/-- What a layer holds is formed. -/
structure Layer.Formed (layer : Layer) : Prop where
  items : AllFormed layer.items
  lefts : LeftsFormed layer.lefts
  signs : ∀ sign ∈ layer.signs, sign.1.isSign

/-- What a reader holds is formed. -/
structure Reader.Formed (reader : Reader) : Prop where
  progress : ∀ node, reader.progress = .operand node → node.Throughout Node.Formed
  layer : reader.layer.Formed
  outer : ∀ layer ∈ reader.outer, layer.Formed

namespace Layer

variable {layer : Layer} {node : Node}

theorem formed_open (surrounding : Surrounding) : (Layer.open surrounding).Formed :=
  ⟨allFormed_nil, by simp [Layer.open, LeftsFormed], by simp [Layer.open]⟩

theorem Formed.complete (h : layer.Formed) (hnode : node.Throughout Node.Formed) :
    (layer.complete source node).Throughout Node.Formed :=
  (reduce_formed 0 h.lefts (applySigns_formed h.signs hnode)).2

theorem Formed.infixOp (h : layer.Formed) (hnode : node.Throughout Node.Formed) {op : Operator}
    (hop : 0 < op.strength) : (layer.infixOp source node op).Formed := by
  obtain ⟨hlefts, hleft⟩ :=
    @reduce_formed source op.strength _ _ h.lefts (applySigns_formed h.signs hnode)
  exact ⟨h.items, List.forall_mem_cons.2 ⟨⟨hleft, hop⟩, hlefts⟩, by simp [Layer.infixOp]⟩

theorem Formed.endItem (h : layer.Formed) (hnode : node.Throughout Node.Formed) :
    (layer.endItem source node).Formed :=
  ⟨List.forall_mem_cons.2 ⟨h.complete hnode, h.items⟩, by simp [Layer.endItem, LeftsFormed],
    by simp [Layer.endItem]⟩

end Layer

namespace Reader

variable {reader next : Reader} {lexeme : Lexeme}

theorem formed_start (surrounding : Surrounding) : (start surrounding).Formed :=
  ⟨by rintro _ ⟨⟩, Layer.formed_open surrounding, by simp [start]⟩

theorem Formed.operand? (h : reader.Formed) {node : Node}
    (hnode : reader.operand? source = some node) : node.Throughout Node.Formed := by
  unfold Reader.operand? at hnode
  split at hnode
  · cases hnode
    exact Node.throughout_formed_leaf trivial rfl
  · rename_i hprogress
    cases hnode
    exact h.progress _ hprogress
  · cases hnode

theorem Holds.formed {items : List Node} (h : reader.Formed) (hitems : reader.Holds source items) :
    AllFormed items := by
  cases hitems with
  | operand hnode => exact (h.layer.endItem (h.operand? hnode)).items.reverse
  | atItem => exact h.layer.items.reverse

/-- **Reading a token makes formed nodes.** -/
theorem Formed.step (h : reader.Formed) (hstep : reader.Step source lexeme next) :
    next.Formed := by
  -- A parenthesis that closes gives an operand to the layer around it.
  have hparent {node : Node} {parent : Layer} {outer : List Layer} {fault : Option Span}
      (hnode : node.Throughout Node.Formed) (hlayers : reader.outer = parent :: outer) :
      Formed ⟨.operand node, { parent with fault := parent.fault.or fault }, outer⟩ := by
    obtain ⟨hparent, houter⟩ := List.forall_mem_cons.1 (hlayers ▸ h.outer)
    refine ⟨?_, ⟨hparent.items, hparent.lefts, hparent.signs⟩, houter⟩
    rintro _ ⟨⟩
    exact hnode
  have henter (surrounding : Surrounding) : (reader.enter surrounding).Formed :=
    ⟨by rintro _ ⟨⟩, Layer.formed_open surrounding, List.forall_mem_cons.2 ⟨h.layer, h.outer⟩⟩
  cases hstep with
  | constant =>
    refine ⟨?_, h.layer, h.outer⟩
    rintro _ ⟨⟩
    exact Node.throughout_formed_leaf trivial rfl
  | name | dot | member => exact ⟨by rintro _ ⟨⟩, h.layer, h.outer⟩
  | group => exact henter .group
  | call => exact henter _
  | sign hwanting _ hop =>
    refine ⟨?_, ⟨h.layer.items, h.layer.lefts, ?_⟩, h.outer⟩
    · intro node hnode
      exact absurd (hwanting.symm.trans hnode) nofun
    · exact List.forall_mem_cons.2 ⟨hop, h.layer.signs⟩
  | infixOp hnode _ hop =>
    exact ⟨by rintro _ ⟨⟩, h.layer.infixOp (h.operand? hnode) hop, h.outer⟩
  | comma hnode => exact ⟨by rintro _ ⟨⟩, h.layer.endItem (h.operand? hnode), h.outer⟩
  | closeGroup hnode _ _ hlayers => exact hparent (h.layer.complete (h.operand? hnode)) hlayers
  | closeCall hitems _ _ hlayers => exact hparent (callNode_formed (hitems.formed h)) hlayers

/-- **Reading a list of tokens makes formed nodes.** -/
theorem Formed.run (h : reader.Formed) (lexemes : List Lexeme) :
    (reader.run source lexemes).1.Formed := by
  induction lexemes generalizing reader with
  | nil => exact h
  | cons lexeme lexemes ih =>
    rw [Reader.run]
    split
    · rename_i next hstep
      exact ih (h.step (step_cases hstep))
    · exact h

end Reader

/-! ### Parameter lists -/

namespace ParameterList

theorem readItems_formed (list : ParameterList) (surrounding : Surrounding)
    (lexemes : List Lexeme) : Gives AllFormed (list.readItems source surrounding lexemes) := by
  have hreader : ((Reader.start surrounding).run source lexemes).1.Formed :=
    (Reader.formed_start surrounding).run lexemes
  unfold readItems
  dsimp only
  split
  · exact gives_error _
  · split
    · rename_i hitems
      exact gives_ok ((Reader.holds_of_items? hitems).2.formed hreader)
    · exact gives_error _

theorem read_formed (list : ParameterList) : Gives AllFormed (list.read source) :=
  list.readItems_formed .list list.lexemes

/-- The header of a loop binds one name. -/
theorem readHeader_formed (list : ParameterList) :
    Gives (fun header => (∃ place name, header.1 = .path place [name]) ∧
      header.2.Throughout Node.Formed) (list.readHeader source) := by
  unfold readHeader
  split
  · exact gives_error _
  · split
    · exact gives_error _
    · rename_i rest _
      have hdata : Gives AllFormed (list.readItems source .header rest) :=
        list.readItems_formed .header rest
      split
      · exact gives_error _
      · rename_i data hread
        exact gives_ok ⟨⟨_, _, rfl⟩, hdata _ hread data (List.mem_singleton_self _)⟩
      · exact gives_error _
    · exact gives_error _
  · exact gives_error _

end ParameterList

/-! ### What a head starts -/

/-- What a block holds is formed. -/
def Block.Formed : Block → Prop
  | .tag _ _ parameters => AllFormed parameters
  | .loop _ key data => (∃ place name, key = .path place [name]) ∧ data.Throughout Node.Formed
  | .chain _ _ branches condition _ =>
    condition.Throughout Node.Formed ∧ ∀ branch ∈ branches, AllFormed (branch.1 :: branch.2)
  | .extend _ _ exports | .exporting _ _ exports _ _ => ∀ entry ∈ exports, AllFormed entry.2

/-- What a head starts is formed. -/
def Opening.Formed : Opening → Prop
  | .node single => single.Throughout Node.Formed
  | .block opened => opened.Formed

namespace Head

variable {head : Head} {nodes : List Node}

theorem Reads.formed (h : head.Reads source nodes) : AllFormed nodes := by
  obtain ⟨list, -, hread⟩ := h
  exact list.read_formed nodes hread

theorem Takes.formed (h : head.Takes source nodes) : AllFormed nodes := by
  rcases h with ⟨-, rfl⟩ | hread
  · exact allFormed_nil
  · exact hread.formed

/-- What a head starts where any tag may stand is formed. -/
theorem Starts.formed {opening : Opening} (h : head.Starts source opening) : opening.Formed := by
  cases h with
  | chain _ _ hread => exact ⟨hread.formed _ (List.mem_singleton_self _), by simp⟩
  | loop _ _ _ hheader => exact ParameterList.readHeader_formed _ _ hheader
  | extend | imported => exact Node.throughout_formed_leaf trivial rfl
  | extendBlock => simp [Opening.Formed, Block.Formed]
  | embed _ _ hread => exact .of_children trivial hread.formed
  | tag _ hparameters =>
    refine .of_children trivial ?_
    simpa [Node.children, AllFormed] using hparameters.formed
  | tagBlock _ hparameters => exact hparameters.formed

end Head

/-! ### The builder -/

namespace Block

/-- A formed block with a formed body is a formed node. -/
theorem Formed.node? {block : Block} (h : block.Formed) {body : List Node}
    (hbody : AllFormed body) {node : Node} (hnode : block.node? body = some node) :
    node.Throughout Node.Formed := by
  cases block with
  | tag span name parameters =>
    cases hnode
    exact .of_children trivial (List.forall_mem_append.2 ⟨h, hbody⟩)
  | loop span key data =>
    cases hnode
    obtain ⟨⟨place, name, rfl⟩, hdata⟩ := h
    have hkey : (Node.path place [name]).Throughout Node.Formed :=
      Node.throughout_formed_leaf trivial rfl
    refine .of_children ⟨place, name, rfl⟩ ?_
    exact List.forall_mem_cons.2 ⟨hkey, List.forall_mem_cons.2 ⟨hdata, hbody⟩⟩
  | chain span opened branches condition isLast =>
    cases hnode
    obtain ⟨hcondition, hbranches⟩ := h
    refine .of_children trivial fun child hchild => ?_
    obtain ⟨branch, hbranch, hchild⟩ := List.mem_flatMap.1 hchild
    rcases List.mem_cons.1 (List.mem_reverse.1 hbranch) with rfl | hbranch
    · exact List.forall_mem_cons.2 ⟨hcondition, hbody⟩ child hchild
    · exact hbranches branch hbranch child hchild
  | extend span path exports =>
    cases hnode
    refine .of_children trivial fun child hchild => ?_
    obtain ⟨entry, hentry, hchild⟩ := List.mem_flatMap.1 hchild
    exact h entry hentry child hchild
  | exporting => cases hnode

/-- One more export. -/
theorem Formed.insert {span : Span} {path name : String} {exports : List (String × List Node)}
    (h : ∀ entry ∈ exports, AllFormed entry.2) {value : List Node} (hvalue : AllFormed value) :
    (Block.extend span path (Keyed.insert name value exports)).Formed := by
  intro entry hentry
  rcases Keyed.mem_of_mem_insert hentry with rfl | hentry
  · exact hvalue
  · exact h entry hentry

end Block

namespace Builder

/-- What a builder holds is formed. -/
structure Formed (builder : Builder) : Prop where
  siblings : AllFormed builder.siblings
  outer : ∀ entry ∈ builder.outer, entry.1.Formed ∧ AllFormed entry.2

variable {builder next : Builder} {head : Head}

theorem formed_empty : empty.Formed := ⟨allFormed_nil, by simp [empty]⟩

theorem Formed.add (h : builder.Formed) {node : Node} (hnode : node.Throughout Node.Formed) :
    (builder.add node).Formed :=
  ⟨List.forall_mem_cons.2 ⟨hnode, h.siblings⟩, h.outer⟩

/-- A block within others, with nothing in it yet. -/
theorem formed_block {block : Block} {before : List Node} {outer : List (Block × List Node)}
    (hblock : block.Formed) (hbefore : AllFormed before)
    (houter : ∀ entry ∈ outer, entry.1.Formed ∧ AllFormed entry.2) :
    Formed ⟨[], (block, before) :: outer⟩ :=
  ⟨allFormed_nil, List.forall_mem_cons.2 ⟨⟨hblock, hbefore⟩, houter⟩⟩

/-- **Taking in a head makes formed nodes.** -/
theorem Formed.adds (h : builder.Formed) (hadds : builder.Adds source head next) :
    next.Formed := by
  -- The block that was innermost may become another one.
  have hblock {block block' : Block} {before : List Node} {outer : List (Block × List Node)}
      (houter : builder.outer = (block, before) :: outer) (hformed : block.Formed → block'.Formed) :
      Formed ⟨[], (block', before) :: outer⟩ := by
    obtain ⟨⟨hfirst, hbefore⟩, hrest⟩ := List.forall_mem_cons.1 (houter ▸ h.outer)
    exact formed_block (hformed hfirst) hbefore hrest
  have hdone {condition : Node} {branches : List (Node × List Node)}
      (hcondition : condition.Throughout Node.Formed)
      (hbranches : ∀ branch ∈ branches, AllFormed (branch.1 :: branch.2)) :
      ∀ branch ∈ (condition, builder.siblings.reverse) :: branches,
        AllFormed (branch.1 :: branch.2) :=
    List.forall_mem_cons.2 ⟨List.forall_mem_cons.2 ⟨hcondition, h.siblings.reverse⟩, hbranches⟩
  cases hadds with
  | @start opening hstarts =>
    cases opening with
    | node single => exact h.add hstarts.formed
    | block opened => exact formed_block hstarts.formed h.siblings h.outer
  | elseif houter _ hread =>
    exact hblock houter fun hchain =>
      ⟨hread.formed _ (List.mem_singleton_self _), hdone hchain.1 hchain.2⟩
  | otherwise houter =>
    exact hblock houter fun hchain =>
      ⟨Node.throughout_formed_leaf trivial rfl, hdone hchain.1 hchain.2⟩
  | exported houter _ hread =>
    refine hblock houter fun hexports => Block.Formed.insert hexports ?_
    exact List.forall_mem_singleton.2 (hread.formed _ (by simp))
  | exporting houter => exact hblock houter id
  | close houter _ hnode =>
    obtain ⟨⟨hfirst, hbefore⟩, hrest⟩ := List.forall_mem_cons.1 (houter ▸ h.outer)
    exact ⟨List.forall_mem_cons.2 ⟨hfirst.node? h.siblings.reverse hnode, hbefore⟩, hrest⟩
  | closeExport houter =>
    exact hblock houter fun hexports => Block.Formed.insert hexports h.siblings.reverse

theorem Formed.addHead (h : builder.Formed) (head : Head) :
    Gives Formed (builder.addHead source head) :=
  fun _ hnext => h.adds (addHead_cases hnext)

theorem Formed.addText (h : builder.Formed) (segment : Segment) :
    Gives Formed (builder.addText source segment) := by
  intro next hnext
  rcases addText_cases hnext with ⟨rfl, -⟩ | ⟨-, rfl⟩
  · exact h
  · exact h.add (Node.throughout_formed_leaf trivial rfl)

theorem Formed.finish (h : builder.Formed) : Gives AllFormed builder.finish := by
  intro nodes hnodes
  obtain ⟨-, rfl⟩ := finish_eq_ok hnodes
  exact h.siblings.reverse

/-- **Reading on makes formed nodes.** -/
theorem Formed.read (h : builder.Formed) (text : List Char) (offset : Nat) :
    Gives AllFormed (builder.read source text offset) := by
  induction hlength : text.length using Nat.strongRecOn generalizing builder text offset with
  | ind length ih =>
    rw [read_eq]
    cases hscan : Segment.scan source builder.closer text offset with
    | error error => exact gives_error error
    | ok segment =>
      refine (h.addText segment).bind fun builder hbuilder => ?_
      split
      · exact hbuilder.finish
      · rename_i head hhead
        refine (hbuilder.addHead head).bind fun builder hbuilder => ?_
        have hlt := Segment.scan_length hscan (by simp [hhead])
        exact ih _ (hlength ▸ hlt) hbuilder _ _ rfl

end Builder

/-- **Every node of a template that is read is formed.** -/
theorem parse_formed {nodes : List Node} (h : parse source = .ok nodes) {node : Node}
    (hnode : Node.OccursIn node nodes) : node.Formed :=
  Node.throughout_iff_occursIn.1 (Builder.formed_empty.read source.text 0 nodes h) node hnode

/-- So is every node of a template that is given as bytes. -/
theorem parseBytes_formed {bytes : ByteArray} {label : String} {nodes : List Node}
    (h : parseBytes bytes label = .ok nodes) {node : Node} (hnode : Node.OccursIn node nodes) :
    node.Formed := by
  unfold parseBytes at h
  split at h
  · exact parse_formed h hnode
  · cases h

end Stencil
