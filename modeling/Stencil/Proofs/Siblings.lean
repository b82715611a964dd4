/-
The places of sibling nodes.

* **`Apart`** — the places of some nodes are not empty, and stand one behind the other;
* **`Node.Ordered`** — so it is for each sequence that stands in a node;
* **`Reader.Ordered`** — what a reader of parameters holds is ordered, and stays so
  token by token (`Reader.Ordered.step`);
* **`ParameterList.Filled.read`** — parameters stand apart from each other.

## Design notes

Each layer of a reader has an offset behind which everything lies that belongs to its
next item, whether it has been read already or waits in a layer further in.  The
complete items of the layer lie before it.
-/
import Stencil.Proofs.Places.Parameters
import Stencil.Proofs.Results

namespace Stencil

/-- The places of some nodes are not empty, and each of them stops before the next ones start. -/
structure Apart (nodes : List Node) : Prop where
  filled : ∀ node ∈ nodes, node.span.start < node.span.stop
  ascending : nodes.Pairwise fun node next => node.span.stop ≤ next.span.start

theorem apart_nil : Apart [] := ⟨fun node hnode => absurd hnode (by simp), .nil⟩

theorem Apart.concat {nodes : List Node} {node : Node} (h : Apart nodes)
    (hnode : node.span.start < node.span.stop)
    (hbefore : ∀ before ∈ nodes, before.span.stop ≤ node.span.start) :
    Apart (nodes ++ [node]) := by
  constructor
  · exact List.forall_mem_append.2 ⟨h.filled, List.forall_mem_singleton.2 hnode⟩
  · refine List.pairwise_append.2 ⟨h.ascending, List.pairwise_singleton _ _, ?_⟩
    intro before hmem next hnext
    rw [List.mem_singleton.1 hnext]
    exact hbefore before hmem

/-- The sequences of nodes that stand directly in a node. -/
def Node.sequences : Node → List (List Node)
  | .tag _ _ parameters body => parameters :: body.toList
  | .conditional _ branches => branches.map Prod.snd
  | .joined _ parts => [parts]
  | .loop _ _ _ body => [body]
  | .extend _ _ exports => exports.map Prod.snd
  | _ => []

/-- The nodes of each sequence in a node stand apart. -/
def Node.Ordered (node : Node) : Prop := ∀ nodes ∈ node.sequences, Apart nodes

/-- The nodes of a sequence stand apart, and so do those of all sequences in them. -/
structure AllOrdered (nodes : List Node) : Prop where
  apart : Apart nodes
  nodes : ∀ node ∈ nodes, node.Throughout Node.Ordered

theorem allOrdered_nil : AllOrdered [] := ⟨apart_nil, fun node hnode => absurd hnode (by simp)⟩

/-- A node without children has no sequences to be ordered. -/
theorem Node.throughout_ordered_leaf {node : Node} (hnone : node.children = [])
    (hsequences : node.sequences = []) : node.Throughout Ordered := by
  refine .of_children ?_ ?_
  · intro nodes hnodes
    rw [hsequences] at hnodes
    cases hnodes
  · intro child hchild
    rw [hnone] at hchild
    cases hchild

/-- The place of an ordered node is not empty, and lies behind an offset. -/
structure Node.Behind (low : Nat) (node : Node) : Prop where
  ordered : node.Throughout Node.Ordered
  low : low ≤ node.span.start
  filled : node.span.start < node.span.stop

theorem Node.Behind.mono {low low' : Nat} {node : Node} (h : node.Behind low) (hle : low' ≤ low) :
    node.Behind low' :=
  ⟨h.ordered, Nat.le_trans hle h.low, h.filled⟩

/-- One more node behind those of a sequence. -/
theorem AllOrdered.concat {nodes : List Node} {node : Node} {low : Nat} (h : AllOrdered nodes)
    (hnode : node.Behind low) (hbefore : ∀ before ∈ nodes, before.span.stop ≤ low) :
    AllOrdered (nodes ++ [node]) := by
  constructor
  · refine h.apart.concat hnode.filled ?_
    intro before hmem
    exact Nat.le_trans (hbefore before hmem) hnode.low
  · exact List.forall_mem_append.2 ⟨h.nodes, List.forall_mem_singleton.2 hnode.ordered⟩

variable {source : Source}

/-! ### Composite expressions -/

theorem applySigns_behind {signs : List (Operator × Nat)} {node : Node} {low : Nat}
    (hnode : node.Behind low) (hsigns : ∀ sign ∈ signs, low ≤ sign.2 ∧ sign.2 < node.span.stop) :
    (applySigns source signs node).Behind low ∧
      (applySigns source signs node).span.stop = node.span.stop := by
  induction signs generalizing node with
  | nil => exact ⟨hnode, rfl⟩
  | cons sign signs ih =>
    obtain ⟨op, start⟩ := sign
    obtain ⟨⟨hlow, hlt⟩, hrest⟩ := List.forall_mem_cons.1 hsigns
    have hsigned : (Node.signed (source.span start node.span.stop) op node).Behind low := by
      refine ⟨.of_children ?_ ?_, hlow, hlt⟩
      · exact fun nodes hnodes => absurd hnodes (by simp [Node.sequences])
      · simpa [Node.children] using hnode.ordered
    exact ih hsigned hrest

theorem reduce_behind (strength : Nat) {lefts : List (Node × Operator)} {node : Node} {low : Nat}
    (hnode : node.Behind low)
    (hlefts : ∀ left ∈ lefts, left.1.Behind low ∧ left.1.span.start < node.span.stop) :
    (∀ left ∈ (reduce source strength lefts node).1, left ∈ lefts) ∧
      (reduce source strength lefts node).2.Behind low ∧
      (reduce source strength lefts node).2.span.stop = node.span.stop := by
  induction lefts generalizing node with
  | nil => exact ⟨fun _ h => h, hnode, rfl⟩
  | cons left lefts ih =>
    obtain ⟨left, op⟩ := left
    obtain ⟨⟨hleft, hlt⟩, hrest⟩ := List.forall_mem_cons.1 hlefts
    rw [reduce]
    by_cases hstrength : strength ≤ op.strength
    · rw [if_pos hstrength]
      have hbinary : (Node.binary (source.span left.span.start node.span.stop) op left
          node).Behind low := by
        refine ⟨.of_children ?_ ?_, hleft.low, hlt⟩
        · exact fun nodes hnodes => absurd hnodes (by simp [Node.sequences])
        · simpa [Node.children] using ⟨hleft.ordered, hnode.ordered⟩
      obtain ⟨hmem, hwhole, hstop⟩ := ih hbinary hrest
      exact ⟨fun left hleft => List.mem_cons_of_mem _ (hmem left hleft), hwhole, hstop⟩
    · rw [if_neg hstrength]
      exact ⟨fun _ h => h, hnode, rfl⟩

theorem callNode_behind {start stop low : Nat} {name : String} {arguments : List Node}
    (hlow : low ≤ start) (hlt : start < stop) (harguments : AllOrdered arguments) :
    (callNode (source.span start stop) name arguments).1.Behind low ∧
      (callNode (source.span start stop) name arguments).1.span.stop = stop := by
  unfold callNode
  by_cases hname : name = "import"
  · rw [if_pos hname]
    split
    · exact ⟨⟨Node.throughout_ordered_leaf rfl rfl, hlow, hlt⟩, rfl⟩
    · exact ⟨⟨Node.throughout_ordered_leaf rfl rfl, hlow, hlt⟩, rfl⟩
  · rw [if_neg hname]
    refine ⟨⟨.of_children ?_ ?_, hlow, hlt⟩, rfl⟩
    · simpa [Node.Ordered, Node.sequences] using harguments.apart
    · simpa [Node.children] using harguments.nodes

/-! ### Readers -/

/-- What a layer holds is ordered: its items lie before an offset, and what waits lies behind
it, and started before another one. -/
structure Layer.Ordered (layer : Layer) (low limit : Nat) : Prop where
  items : AllOrdered layer.items.reverse
  done : ∀ item ∈ layer.items, item.span.stop ≤ low
  lefts : ∀ left ∈ layer.lefts, left.1.Behind low ∧ left.1.span.start < limit
  signs : ∀ sign ∈ layer.signs, low ≤ sign.2 ∧ sign.2 < limit
  call : ∀ name start, layer.surrounding = .call name start → start < limit

/-- Where the operand starts that a pair of parentheses will be, if its items start behind an
offset. -/
def Surrounding.begin (low : Nat) : Surrounding → Nat
  | .call _ start => start
  | _ => low

/-- The layers around a pair of parentheses are ordered, and it belongs to their next items. -/
def LayersOrdered (limit : Nat) : Surrounding → Nat → List Layer → Prop
  | _, _, [] => True
  | surrounding, low, parent :: outer => ∃ low', low' ≤ surrounding.begin low ∧
    parent.Ordered low' limit ∧ LayersOrdered limit parent.surrounding low' outer

/-- What has been read of an operand lies behind an offset, when the last token stops at
another one. -/
def Progress.Ordered (low stop : Nat) : Progress → Prop
  | .wanting => low ≤ stop
  | .dotted _ start => low ≤ start ∧ start < stop
  | .path _ start stop' => low ≤ start ∧ start < stop' ∧ stop' ≤ stop
  | .operand node => node.Behind low ∧ node.span.stop ≤ stop

/-- What a reader holds is ordered, when the last token stops at an offset. -/
def Reader.Ordered (reader : Reader) (stop : Nat) : Prop :=
  ∃ low, reader.progress.Ordered low stop ∧
    reader.layer.Ordered low (reader.progress.limit stop) ∧
    LayersOrdered (reader.progress.limit stop) reader.layer.surrounding low reader.outer

theorem Progress.Ordered.limit_le {progress : Progress} {low stop : Nat}
    (h : progress.Ordered low stop) : progress.limit stop ≤ stop := by
  cases progress with
  | wanting | dotted => exact Nat.le_refl stop
  | path => exact h.2.2
  | operand => exact h.2

namespace Layer

variable {layer : Layer} {low limit : Nat} {node : Node}

theorem ordered_open {surrounding : Surrounding}
    (h : ∀ name start, surrounding = .call name start → start < limit) (low : Nat) :
    (Layer.open surrounding).Ordered low limit := by
  refine ⟨allOrdered_nil, ?_, ?_, ?_, h⟩
  all_goals simp [Layer.open]

theorem Ordered.mono {limit' : Nat} (h : layer.Ordered low limit) (hle : limit ≤ limit') :
    layer.Ordered low limit' := by
  refine ⟨h.items, h.done, ?_, ?_, ?_⟩
  · intro left hleft
    exact ⟨(h.lefts left hleft).1, Nat.lt_of_lt_of_le (h.lefts left hleft).2 hle⟩
  · intro sign hsign
    exact ⟨(h.signs sign hsign).1, Nat.lt_of_lt_of_le (h.signs sign hsign).2 hle⟩
  · intro name start hcall
    exact Nat.lt_of_lt_of_le (h.call name start hcall) hle

/-- Signs and waiting operands are completed by an operand. -/
theorem Ordered.reduce (h : layer.Ordered low node.span.stop) (hnode : node.Behind low)
    (strength : Nat) :
    let result := Stencil.reduce source strength layer.lefts (applySigns source layer.signs node)
    (∀ left ∈ result.1, left ∈ layer.lefts) ∧ result.2.Behind low ∧
      result.2.span.stop = node.span.stop := by
  obtain ⟨hsigned, hstop⟩ := @applySigns_behind source _ _ _ hnode h.signs
  have hresult := @reduce_behind source strength _ _ _ hsigned fun left hleft => by
    rw [hstop]
    exact h.lefts left hleft
  rwa [hstop] at hresult

theorem Ordered.complete (h : layer.Ordered low node.span.stop) (hnode : node.Behind low) :
    (layer.complete source node).Behind low ∧
      (layer.complete source node).span.stop = node.span.stop :=
  (h.reduce hnode 0).2

theorem Ordered.infixOp (h : layer.Ordered low node.span.stop) (hnode : node.Behind low)
    (op : Operator) : (layer.infixOp source node op).Ordered low node.span.stop := by
  obtain ⟨hmem, hwhole, hstop⟩ := @Ordered.reduce source _ _ _ h hnode op.strength
  refine ⟨h.items, h.done, ?_, ?_, h.call⟩
  · intro left hleft
    rcases List.mem_cons.1 hleft with rfl | hleft
    · refine ⟨hwhole, ?_⟩
      rw [← hstop]
      exact hwhole.filled
    · exact h.lefts left (hmem left hleft)
  · simp [Layer.infixOp]

/-- The next item lies behind the one that ends. -/
theorem Ordered.endItem (h : layer.Ordered low node.span.stop) (hnode : node.Behind low) :
    (layer.endItem source node).Ordered node.span.stop node.span.stop := by
  obtain ⟨hwhole, hstop⟩ := @Ordered.complete source _ _ _ h hnode
  refine ⟨?_, ?_, ?_, ?_, h.call⟩
  · show AllOrdered (layer.complete source node :: layer.items).reverse
    rw [List.reverse_cons]
    refine h.items.concat hwhole ?_
    intro before hbefore
    exact h.done before (List.mem_reverse.1 hbefore)
  · intro item hitem
    rcases List.mem_cons.1 hitem with rfl | hitem
    · exact Nat.le_of_eq hstop
    · have hdone := h.done item hitem
      have hlow := hnode.low
      have hfilled := hnode.filled
      omega
  · simp [Layer.endItem]
  · simp [Layer.endItem]

end Layer

theorem LayersOrdered.mono {surrounding : Surrounding} {low low' limit limit' : Nat}
    {outer : List Layer} (h : LayersOrdered limit surrounding low outer) (hlow : low ≤ low')
    (hlimit : limit ≤ limit') : LayersOrdered limit' surrounding low' outer := by
  induction outer generalizing surrounding low low' with
  | nil => trivial
  | cons parent outer ih =>
    obtain ⟨first, hfirst, hparent, houter⟩ := h
    refine ⟨first, ?_, hparent.mono hlimit, ih houter (Nat.le_refl _)⟩
    cases surrounding with
    | call name start => exact hfirst
    | list | header | group => exact Nat.le_trans hfirst hlow

namespace Reader

variable {reader next : Reader} {lexeme : Lexeme} {stop : Nat}

theorem ordered_start (surrounding : Surrounding)
    (h : ∀ name start, surrounding ≠ .call name start) (stop : Nat) :
    (start surrounding).Ordered stop := by
  refine ⟨stop, Nat.le_refl stop, Layer.ordered_open ?_ stop, trivial⟩
  intro name start' hcall
  exact absurd hcall (h name start')

/-- The operand that has been read last, and what is around it. -/
theorem Ordered.operand? (h : reader.Ordered stop) {node : Node}
    (hnode : reader.operand? source = some node) :
    ∃ low, node.Behind low ∧ node.span.stop ≤ stop ∧ reader.layer.Ordered low node.span.stop ∧
      LayersOrdered node.span.stop reader.layer.surrounding low reader.outer := by
  obtain ⟨progress, layer, outer⟩ := reader
  obtain ⟨low, hprogress, hlayer, houter⟩ := h
  cases progress with
  | wanting | dotted => cases hnode
  | operand operand =>
    cases hnode
    exact ⟨low, hprogress.1, hprogress.2, hlayer, houter⟩
  | path keys start stop' =>
    cases hnode
    obtain ⟨hlow, hlt, hle⟩ := hprogress
    exact ⟨low, ⟨Node.throughout_ordered_leaf rfl rfl, hlow, hlt⟩, hle, hlayer, houter⟩

/-- The items that a reader holds stand apart. -/
theorem Holds.ordered {items : List Node} (hitems : reader.Holds source items)
    (h : reader.Ordered stop) : AllOrdered items := by
  cases hitems with
  | operand hnode =>
    obtain ⟨low, hbehind, -, hlayer, -⟩ := h.operand? hnode
    exact (hlayer.endItem hbehind).items
  | atItem =>
    obtain ⟨low, -, hlayer, -⟩ := h
    exact hlayer.items

/-- **A reader that reads one more token holds ordered nodes still.** -/
theorem Ordered.step (h : reader.Ordered stop) (hlow : stop ≤ lexeme.start)
    (hlt : lexeme.start < lexeme.stop) (hstep : reader.Step source lexeme next) :
    next.Ordered lexeme.stop := by
  obtain ⟨low, hprogress, hlayer, houter⟩ := id h
  have hlimit : reader.progress.limit stop ≤ lexeme.stop := by
    have hle := hprogress.limit_le
    omega
  -- A parenthesis that opens puts the layers behind a new one, whose items come later.
  have henter {surrounding : Surrounding} (hbegin : low ≤ surrounding.begin lexeme.stop)
      (hcall : ∀ name start, surrounding = .call name start → start < lexeme.stop) :
      (reader.enter surrounding).Ordered lexeme.stop :=
    ⟨lexeme.stop, Nat.le_refl _, Layer.ordered_open hcall _, low, hbegin, hlayer.mono hlimit,
      houter.mono (Nat.le_refl _) hlimit⟩
  cases hstep with
  | constant hwanting =>
    rw [hwanting] at hprogress
    have hlow' : low ≤ lexeme.start := Nat.le_trans hprogress hlow
    exact ⟨low, ⟨⟨Node.throughout_ordered_leaf rfl rfl, hlow', hlt⟩, Nat.le_refl _⟩,
      hlayer.mono hlimit, houter.mono (Nat.le_refl _) hlimit⟩
  | name hwanting =>
    rw [hwanting] at hprogress
    have hlow' : low ≤ lexeme.start := Nat.le_trans hprogress hlow
    exact ⟨low, ⟨hlow', hlt, Nat.le_refl _⟩, hlayer.mono hlimit,
      houter.mono (Nat.le_refl _) hlimit⟩
  | group hwanting =>
    rw [hwanting] at hprogress
    refine henter ?_ (by rintro _ _ ⟨⟩)
    show low ≤ lexeme.stop
    have hle : low ≤ stop := hprogress
    omega
  | sign hwanting =>
    rw [hwanting] at hprogress
    have hle : low ≤ stop := hprogress
    have hmono := hlayer.mono hlimit
    rw [hwanting]
    refine ⟨low, ?_, ⟨hmono.items, hmono.done, hmono.lefts, ?_, hmono.call⟩,
      houter.mono (Nat.le_refl _) hlimit⟩
    · show low ≤ lexeme.stop
      omega
    · exact List.forall_mem_cons.2 ⟨⟨Nat.le_trans hle hlow, hlt⟩, hmono.signs⟩
  | dot hpath =>
    rw [hpath] at hprogress
    obtain ⟨hstart, hfilled, hle⟩ := hprogress
    refine ⟨low, ⟨hstart, ?_⟩, hlayer.mono hlimit, houter.mono (Nat.le_refl _) hlimit⟩
    omega
  | member hdotted =>
    rw [hdotted] at hprogress
    obtain ⟨hstart, hfilled⟩ := hprogress
    refine ⟨low, ⟨hstart, ?_, Nat.le_refl _⟩, hlayer.mono hlimit,
      houter.mono (Nat.le_refl _) hlimit⟩
    omega
  | call hpath =>
    rw [hpath] at hprogress
    obtain ⟨hstart, hfilled, hle⟩ := hprogress
    refine henter hstart ?_
    rintro _ _ ⟨⟩
    omega
  | @infixOp node op hnode =>
    obtain ⟨low, hbehind, hle, hlayer, houter⟩ := h.operand? hnode
    have hlimit : node.span.stop ≤ lexeme.stop := by omega
    have hfilled := hbehind.filled
    have hstart := hbehind.low
    refine ⟨low, ?_, (hlayer.infixOp hbehind op).mono hlimit, houter.mono (Nat.le_refl _) hlimit⟩
    show low ≤ lexeme.stop
    omega
  | @comma node hnode =>
    obtain ⟨low, hbehind, hle, hlayer, houter⟩ := h.operand? hnode
    have hlimit : node.span.stop ≤ lexeme.stop := by omega
    have hfilled := hbehind.filled
    have hstart := hbehind.low
    refine ⟨node.span.stop, hlimit, (hlayer.endItem hbehind).mono hlimit, houter.mono ?_ hlimit⟩
    omega
  | @closeGroup node parent outer hnode _ hsurrounding hparents =>
    obtain ⟨low, hbehind, hle, hlayer, houter⟩ := h.operand? hnode
    obtain ⟨hwhole, hstop⟩ := @Layer.Ordered.complete source _ _ _ hlayer hbehind
    rw [hparents, hsurrounding, ← hstop] at houter
    obtain ⟨low', hlow', hparent, houter⟩ := houter
    refine ⟨low', ⟨hwhole.mono hlow', ?_⟩, ?_, houter⟩
    · omega
    · exact ⟨hparent.items, hparent.done, hparent.lefts, hparent.signs, hparent.call⟩
  | @closeCall items name start parent outer hitems _ hsurrounding hparents =>
    have hstart : start < lexeme.stop := by
      have hcall := hlayer.call name start hsurrounding
      omega
    rw [hparents, hsurrounding] at houter
    obtain ⟨low', hlow', hparent, houter⟩ := houter
    have hlow' : low' ≤ start := hlow'
    obtain ⟨hnode, hstop⟩ := @callNode_behind source _ _ _ name _ hlow' hstart (hitems.ordered h)
    have hmono := hparent.mono hlimit
    refine ⟨low', ⟨hnode, Nat.le_of_eq hstop⟩, ?_, ?_⟩
    · show Layer.Ordered _ low' (callNode _ name items).1.span.stop
      rw [hstop]
      exact ⟨hmono.items, hmono.done, hmono.lefts, hmono.signs, hmono.call⟩
    · show LayersOrdered (callNode _ name items).1.span.stop parent.surrounding low' outer
      rw [hstop]
      exact houter.mono (Nat.le_refl _) hlimit

/-- **A reader that reads lexemes one behind the other holds ordered nodes.** -/
theorem Ordered.run {lexemes : List Lexeme} {high : Nat} (h : reader.Ordered stop)
    (hlexemes : Spaced source stop lexemes high)
    (hfilled : ∀ lexeme ∈ lexemes, lexeme.start < lexeme.stop) :
    ∃ stop', (reader.run source lexemes).1.Ordered stop' := by
  induction lexemes generalizing reader stop with
  | nil => exact ⟨stop, h⟩
  | cons lexeme lexemes ih =>
    obtain ⟨hlow, -, -, -, hrest⟩ := hlexemes
    obtain ⟨hlt, hfilled⟩ := List.forall_mem_cons.1 hfilled
    rw [Reader.run]
    split
    · rename_i next hstep
      exact ih (h.step hlow hlt (step_cases hstep)) hrest hfilled
    · exact ⟨stop, h⟩

end Reader

/-! ### Parameter lists -/

/-- The tokens of a parameter list stand one behind the other, and none of them is empty. -/
structure ParameterList.Filled (source : Source) (list : ParameterList) : Prop where
  stands : list.Stands source
  filled : ∀ lexeme ∈ list.lexemes, lexeme.start < lexeme.stop

namespace ParameterList

variable {list : ParameterList}

theorem readItems_ordered (list : ParameterList) {surrounding : Surrounding}
    (hsurrounding : ∀ name start, surrounding ≠ .call name start) {low high : Nat}
    {lexemes : List Lexeme} (hlexemes : Spaced source low lexemes high)
    (hfilled : ∀ lexeme ∈ lexemes, lexeme.start < lexeme.stop) :
    Gives AllOrdered (list.readItems source surrounding lexemes) := by
  obtain ⟨stop, hreader⟩ :=
    (Reader.ordered_start surrounding hsurrounding low).run hlexemes hfilled
  unfold readItems
  dsimp only
  split
  · exact gives_error _
  · split
    · rename_i hitems
      exact gives_ok ((Reader.holds_of_items? hitems).2.ordered hreader)
    · exact gives_error _

/-- **Parameters stand apart from each other.** -/
theorem Filled.read (h : list.Filled source) : Gives AllOrdered (list.read source) := by
  obtain ⟨low, hlexemes⟩ := h.stands.lexemes
  exact list.readItems_ordered (by rintro _ _ ⟨⟩) hlexemes h.filled

/-- The header of a loop is ordered. -/
theorem Filled.readHeader (h : list.Filled source) :
    Gives (fun header => header.1.Throughout Node.Ordered ∧ header.2.Throughout Node.Ordered)
      (list.readHeader source) := by
  obtain ⟨low, hlexemes⟩ := h.stands.lexemes
  unfold ParameterList.readHeader
  split
  · exact gives_error _
  · rename_i heq
    rw [heq] at hlexemes
    split
    · exact gives_error _
    · rename_i rest
      obtain ⟨-, -, -, -, -, -, -, -, hrest⟩ := hlexemes
      have hdata : Gives AllOrdered (list.readItems source .header rest) := by
        refine list.readItems_ordered (by rintro _ _ ⟨⟩) hrest ?_
        intro lexeme hlexeme
        exact h.filled lexeme (by simp [heq, hlexeme])
      split
      · exact gives_error _
      · rename_i data hread
        refine gives_ok ⟨Node.throughout_ordered_leaf rfl rfl, ?_⟩
        exact (hdata _ hread).nodes data (List.mem_singleton_self _)
      · exact gives_error _
    · exact gives_error _
  · exact gives_error _

end ParameterList

end Stencil
