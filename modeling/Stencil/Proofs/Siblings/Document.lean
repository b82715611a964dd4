/-
The places of the nodes of a template.

* **`Head.Reads.ordered`** — the parameters of a head stand apart from each other;
* **`Builder.Ordered`** — what a builder holds is ordered and lies before an offset, and
  stays so head by head (`Builder.Ordered.adds`);
* **`parse_tiles`** — the items of a template make it up, and so its nodes stand apart.

## Design notes

The place of a block is that of its first head.  The nodes in the block lie behind that,
and those in front of the block before it, so the order of the siblings outlasts the
block whatever stands in it.
-/
import Stencil.Proofs.Siblings
import Stencil.Proofs.Tiling

namespace Stencil

variable {source : Source}

/-! ### Heads -/

/-- A token is not empty. -/
theorem nextPiece_filled {text rest : List Char} {offset stop : Nat} {lexeme : Lexeme}
    (h : nextPiece text offset = some (.lexeme lexeme, rest, stop)) :
    lexeme.start < lexeme.stop := by
  unfold nextPiece at h
  split at h
  · cases h
  · rename_i c tail start hskip
    have hpos := byteLength_pos (Stretch.cut_ne_nil c tail)
    dsimp only at h
    split at h
    · cases h
      show start < start + byteLength (Stretch.cut c tail).chars
      omega
    · cases h

namespace Head

theorem collect_filled {opening : Nat} {text rest : List Char} {offset depth : Nat}
    {done : List Lexeme} {list : ParameterList}
    (hdone : ∀ lexeme ∈ done, lexeme.start < lexeme.stop)
    (h : collect source opening text offset depth done = .ok (list, rest)) :
    ∀ lexeme ∈ list.lexemes, lexeme.start < lexeme.stop := by
  fun_induction collect source opening text offset depth done with
  | case1 => cases h
  | case2 => cases h
  | case4 text offset done lexeme rest' stop heq hlt htoken =>
    cases h
    exact fun lexeme hlexeme => hdone lexeme (List.mem_reverse.1 hlexeme)
  | case3 text offset depth done lexeme rest' stop heq hlt htoken ih
  | case5 text offset done lexeme rest' stop heq hlt depth htoken ih
  | case6 text offset depth done lexeme rest' stop heq hlt _ _ _ ih =>
    exact ih (List.forall_mem_cons.2 ⟨nextPiece_filled heq, hdone⟩) h

variable {head : Head} {nodes : List Node}

/-- The parameter list of a head stands in the source, and its tokens are not empty. -/
theorem Found.filled (h : head.Found source) {list : ParameterList}
    (hlist : head.parameters = some list) : list.Filled source := by
  refine ⟨h.stands.parameters list hlist, ?_⟩
  obtain ⟨closer, text, rest, -, hrecognize⟩ := h
  obtain ⟨chars, behind, rfl, -, hhead⟩ := recognize_eq_some hrecognize
  rcases hhead with ⟨parameters, list', rest', -, hcollect, hcomplete⟩ | ⟨-, -, hcomplete⟩
  · have hparameters : some list' = some list := by
      rw [← hlist, show head = _ from (congrArg Prod.fst hcomplete).symm]
      rfl
    cases hparameters
    exact collect_filled (by simp) hcollect
  · -- A name that stands alone has no parameters.
    rw [show head = _ from (congrArg Prod.fst hcomplete).symm] at hlist
    cases hlist

theorem Reads.ordered (h : head.Reads source nodes) (hfound : head.Found source) :
    AllOrdered nodes := by
  obtain ⟨list, hlist, hread⟩ := h
  exact (hfound.filled hlist).read nodes hread

theorem Takes.ordered (h : head.Takes source nodes) (hfound : head.Found source) :
    AllOrdered nodes := by
  rcases h with ⟨-, rfl⟩ | hread
  · exact allOrdered_nil
  · exact hread.ordered hfound

end Head

/-! ### Blocks -/

namespace Block

/-- The place of the node that a block becomes. -/
def span : Block → Span
  | tag span _ _ | loop span _ _ | chain span _ _ _ _ | extend span _ _ => span
  | exporting span _ _ _ _ => span

/-- What a block holds is ordered. -/
def Ordered : Block → Prop
  | tag _ _ parameters => AllOrdered parameters
  | loop _ key data => key.Throughout Node.Ordered ∧ data.Throughout Node.Ordered
  | chain _ _ branches condition _ => condition.Throughout Node.Ordered ∧
    ∀ branch ∈ branches, branch.1.Throughout Node.Ordered ∧ AllOrdered branch.2
  | extend _ _ exports | exporting _ _ exports _ _ => ∀ entry ∈ exports, AllOrdered entry.2

/-- An ordered block with an ordered body is an ordered node in its place. -/
theorem Ordered.node? {block : Block} (h : block.Ordered) {body : List Node}
    (hbody : AllOrdered body) {node : Node} (hnode : block.node? body = some node) :
    node.Throughout Node.Ordered ∧ node.span = block.span := by
  cases block with
  | tag span name parameters =>
    cases hnode
    refine ⟨.of_children ?_ ?_, rfl⟩
    · simpa [Node.Ordered, Node.sequences] using ⟨h.apart, hbody.apart⟩
    · exact List.forall_mem_append.2 ⟨h.nodes, hbody.nodes⟩
  | loop span key data =>
    cases hnode
    refine ⟨.of_children ?_ ?_, rfl⟩
    · simpa [Node.Ordered, Node.sequences] using hbody.apart
    · exact List.forall_mem_cons.2 ⟨h.1, List.forall_mem_cons.2 ⟨h.2, hbody.nodes⟩⟩
  | chain span opened branches condition isLast =>
    cases hnode
    obtain ⟨hcondition, hbranches⟩ := h
    have hall : ∀ branch ∈ ((condition, body) :: branches).reverse,
        branch.1.Throughout Node.Ordered ∧ AllOrdered branch.2 := by
      intro branch hbranch
      rcases List.mem_cons.1 (List.mem_reverse.1 hbranch) with rfl | hbranch
      · exact ⟨hcondition, hbody⟩
      · exact hbranches branch hbranch
    refine ⟨.of_children ?_ ?_, rfl⟩
    · intro nodes hnodes
      obtain ⟨branch, hbranch, rfl⟩ := List.mem_map.1 hnodes
      exact (hall branch hbranch).2.apart
    · intro child hchild
      obtain ⟨branch, hbranch, hchild⟩ := List.mem_flatMap.1 hchild
      obtain ⟨hfirst, hsecond⟩ := hall branch hbranch
      exact List.forall_mem_cons.2 ⟨hfirst, hsecond.nodes⟩ child hchild
  | extend span path exports =>
    cases hnode
    refine ⟨.of_children ?_ ?_, rfl⟩
    · intro nodes hnodes
      obtain ⟨entry, hentry, rfl⟩ := List.mem_map.1 hnodes
      exact (h entry hentry).apart
    · intro child hchild
      obtain ⟨entry, hentry, hchild⟩ := List.mem_flatMap.1 hchild
      exact (h entry hentry).nodes child hchild
  | exporting => cases hnode

/-- One more export. -/
theorem Ordered.insert {span : Span} {path name : String} {exports : List (String × List Node)}
    (h : ∀ entry ∈ exports, AllOrdered entry.2) {value : List Node} (hvalue : AllOrdered value) :
    (Block.extend span path (Keyed.insert name value exports)).Ordered := by
  intro entry hentry
  rcases Keyed.mem_of_mem_insert hentry with rfl | hentry
  · exact hvalue
  · exact h entry hentry

end Block

/-- What a head starts is ordered, and stands in the place of the head. -/
def Opening.Ordered (source : Source) (head : Head) : Opening → Prop
  | .node single => single.Throughout Node.Ordered ∧ single.span = head.span source
  | .block opened => opened.Ordered ∧ opened.span = head.span source

theorem Head.Starts.ordered {head : Head} {opening : Opening} (h : head.Starts source opening)
    (hfound : head.Found source) : opening.Ordered source head := by
  cases h with
  | chain _ _ hread =>
    refine ⟨⟨?_, by simp⟩, rfl⟩
    exact (hread.ordered hfound).nodes _ (List.mem_singleton_self _)
  | loop _ _ hlist hheader => exact ⟨(hfound.filled hlist).readHeader _ hheader, rfl⟩
  | extend | imported => exact ⟨Node.throughout_ordered_leaf rfl rfl, rfl⟩
  | extendBlock => exact ⟨by simp [Block.Ordered], rfl⟩
  | embed _ _ hread =>
    refine ⟨.of_children (fun nodes hnodes => absurd hnodes (by simp [Node.sequences])) ?_, rfl⟩
    exact (hread.ordered hfound).nodes
  | tag _ hparameters =>
    have hordered : AllOrdered _ := hparameters.ordered hfound
    refine ⟨.of_children ?_ ?_, rfl⟩
    · simpa [Node.Ordered, Node.sequences] using hordered.apart
    · simpa [Node.children] using hordered.nodes
  | tagBlock _ hparameters => exact ⟨hparameters.ordered hfound, rfl⟩

/-! ### Builders -/

/-- An open block stands behind the nodes in front of it, and before an offset. -/
structure Block.Placed (offset : Nat) (block : Block) (before : List Node) : Prop where
  ordered : block.Ordered
  front : AllOrdered before.reverse
  done : ∀ node ∈ before, node.span.stop ≤ block.span.start
  filled : block.span.start < block.span.stop
  le : block.span.stop ≤ offset

namespace Builder

/-- What a builder holds is ordered, and lies before an offset. -/
structure Ordered (builder : Builder) (offset : Nat) : Prop where
  siblings : AllOrdered builder.siblings.reverse
  done : ∀ node ∈ builder.siblings, node.span.stop ≤ offset
  outer : ∀ entry ∈ builder.outer, entry.1.Placed offset entry.2

variable {builder next : Builder} {head : Head} {offset : Nat}

theorem ordered_empty : empty.Ordered 0 :=
  ⟨allOrdered_nil, by simp [empty], by simp [empty]⟩

/-- Open blocks stay where they are. -/
theorem Ordered.placed (h : builder.Ordered offset) {offset' : Nat} (hle : offset ≤ offset') :
    ∀ entry ∈ builder.outer, entry.1.Placed offset' entry.2 := by
  intro entry hentry
  have hplaced := h.outer entry hentry
  exact { hplaced with le := Nat.le_trans hplaced.le hle }

/-- One more node, which starts at the offset. -/
theorem Ordered.add (h : builder.Ordered offset) {node : Node}
    (hnode : node.Throughout Node.Ordered) (hstart : node.span.start = offset)
    (hfilled : node.span.start < node.span.stop) : (builder.add node).Ordered node.span.stop := by
  have hle : offset ≤ node.span.stop := by omega
  refine ⟨?_, ?_, h.placed hle⟩
  · show AllOrdered (node :: builder.siblings).reverse
    rw [List.reverse_cons]
    refine h.siblings.concat ⟨hnode, Nat.le_of_eq hstart.symm, hfilled⟩ ?_
    exact fun before hbefore => h.done before (List.mem_reverse.1 hbefore)
  · refine List.forall_mem_cons.2 ⟨Nat.le_refl _, ?_⟩
    exact fun before hbefore => Nat.le_trans (h.done before hbefore) hle

/-- A block within others, with nothing in it yet. -/
theorem ordered_block {block : Block} {before : List Node} {outer : List (Block × List Node)}
    (hblock : block.Placed offset before)
    (houter : ∀ entry ∈ outer, entry.1.Placed offset entry.2) :
    Ordered ⟨[], (block, before) :: outer⟩ offset :=
  ⟨allOrdered_nil, by simp, List.forall_mem_cons.2 ⟨hblock, houter⟩⟩

/-- **A builder that takes in a head stays ordered.** -/
theorem Ordered.adds (h : builder.Ordered offset) (hfound : head.Found source)
    (hstart : head.start = offset) (hadds : builder.Adds source head next) :
    next.Ordered head.stop := by
  have hlt : head.start < head.stop := hfound.lt
  have hplaced : ∀ entry ∈ builder.outer, entry.1.Placed head.stop entry.2 :=
    h.placed (by omega)
  -- The block that was innermost may become another one, in the same place.
  have hblock {block block' : Block} {before : List Node} {outer : List (Block × List Node)}
      (houter : builder.outer = (block, before) :: outer) (hspan : block'.span = block.span)
      (hordered : block.Ordered → block'.Ordered) :
      Ordered ⟨[], (block', before) :: outer⟩ head.stop := by
    rw [houter] at hplaced
    obtain ⟨hfirst, hrest⟩ := List.forall_mem_cons.1 hplaced
    refine ordered_block ⟨hordered hfirst.ordered, hfirst.front, ?_, ?_, ?_⟩ hrest
    · rw [hspan]
      exact hfirst.done
    · rw [hspan]
      exact hfirst.filled
    · rw [hspan]
      exact hfirst.le
  have hdone {condition : Node} {branches : List (Node × List Node)}
      (hcondition : condition.Throughout Node.Ordered)
      (hbranches : ∀ branch ∈ branches, branch.1.Throughout Node.Ordered ∧ AllOrdered branch.2) :
      ∀ branch ∈ (condition, builder.siblings.reverse) :: branches,
        branch.1.Throughout Node.Ordered ∧ AllOrdered branch.2 :=
    List.forall_mem_cons.2 ⟨⟨hcondition, h.siblings⟩, hbranches⟩
  cases hadds with
  | start hstarts =>
    rename_i opening
    have hopening := hstarts.ordered hfound
    cases opening with
    | node node =>
      obtain ⟨hnode, hspan⟩ := hopening
      have hadd := h.add hnode (by rw [hspan]; exact hstart) (by rw [hspan]; exact hlt)
      rw [hspan] at hadd
      exact hadd
    | block block =>
      obtain ⟨hordered, hspan⟩ := hopening
      refine ordered_block ⟨hordered, h.siblings, ?_, ?_, ?_⟩ hplaced
      · rw [hspan]
        show ∀ node ∈ builder.siblings, node.span.stop ≤ head.start
        rw [hstart]
        exact h.done
      · rw [hspan]
        exact hlt
      · rw [hspan]
        exact Nat.le_refl _
  | elseif houter _ hread =>
    refine hblock houter rfl fun hchain => ⟨?_, hdone hchain.1 hchain.2⟩
    exact (hread.ordered hfound).nodes _ (List.mem_singleton_self _)
  | otherwise houter =>
    exact hblock houter rfl fun hchain =>
      ⟨Node.throughout_ordered_leaf rfl rfl, hdone hchain.1 hchain.2⟩
  | exported houter _ hread =>
    refine hblock houter rfl fun hexports => Block.Ordered.insert hexports ?_
    -- The value stands behind the name.
    have hordered := hread.ordered hfound
    refine ⟨⟨?_, List.pairwise_singleton _ _⟩, ?_⟩
    · exact List.forall_mem_singleton.2 (hordered.apart.filled _ (by simp))
    · exact List.forall_mem_singleton.2 (hordered.nodes _ (by simp))
  | exporting houter => exact hblock houter rfl id
  | @close block before outer node houter _ hnode =>
    rw [houter] at hplaced
    obtain ⟨hfirst, hrest⟩ := List.forall_mem_cons.1 hplaced
    obtain ⟨hordered, hspan⟩ := hfirst.ordered.node? h.siblings hnode
    have hfilled := hfirst.filled
    have hle := hfirst.le
    refine ⟨?_, ?_, hrest⟩
    · show AllOrdered (node :: before).reverse
      rw [List.reverse_cons]
      refine hfirst.front.concat ⟨hordered, Nat.le_of_eq (congrArg Span.start hspan).symm, ?_⟩ ?_
      · rw [hspan]
        exact hfilled
      · exact fun node hmem => hfirst.done node (List.mem_reverse.1 hmem)
    · refine List.forall_mem_cons.2 ⟨?_, ?_⟩
      · rw [hspan]
        exact hle
      · intro node hmem
        have hdone := hfirst.done node hmem
        omega
  | closeExport houter =>
    exact hblock houter rfl fun hexports => Block.Ordered.insert hexports h.siblings

/-- A builder that takes in an item stays ordered. -/
theorem Ordered.addItem (h : builder.Ordered offset) {cursor cursor' : Cursor} {item : Item}
    (hitem : item.Between source cursor cursor') (hoffset : cursor.offset = offset)
    (hadd : builder.addItem source item = .ok next) : next.Ordered cursor'.offset := by
  have hstart := hitem.start
  have hstop := hitem.stop
  have hlt := hitem.lt
  cases item with
  | tag head =>
    rw [← hstop]
    exact h.adds (hitem.tag head rfl).1 (hstart.trans hoffset) (addHead_cases hadd)
  | raw text start stop =>
    have hstart : start = offset := hstart.trans hoffset
    have hstop : stop = cursor'.offset := hstop
    have hlt : start < stop := hlt
    rcases addText_cases hadd with ⟨rfl, -⟩ | ⟨-, rfl⟩
    · have hle : offset ≤ cursor'.offset := by omega
      exact ⟨h.siblings, fun node hnode => Nat.le_trans (h.done node hnode) hle, h.placed hle⟩
    · rw [← hstop]
      exact h.add (Node.throughout_ordered_leaf rfl rfl) hstart hlt

/-- **A builder that takes in items up to the end gives ordered nodes.** -/
theorem Consumes.ordered {cursor : Cursor} {calls : List Call} {nodes : List Node}
    (h : builder.Consumes source cursor calls nodes) (hsound : cursor.Sound source)
    (hbuilder : builder.Ordered cursor.offset) : AllOrdered nodes := by
  induction h with
  | finish hnext hfinish =>
    obtain ⟨-, rfl⟩ := finish_eq_ok hfinish
    exact hbuilder.siblings
  | take hnext hadd _ ih =>
    obtain ⟨hsound', hleads⟩ := hsound.next hnext
    exact ih hsound' (hbuilder.addItem hleads rfl hadd)

end Builder

/-- **The scanner loses and invents nothing.**  A template that is read is made up of items, of
raw text and heads that stand one behind the other, and so its nodes stand apart in each
sequence. -/
theorem parse_tiles {source : Source} {nodes : List Node} (h : parse source = .ok nodes) :
    (∃ calls, Builder.empty.Consumes source .start calls nodes) ∧
      (∀ calls, Builder.empty.Consumes source .start calls nodes → Tiling source calls) ∧
      Apart nodes ∧
      ∀ node, Node.OccursIn node nodes → ∀ siblings ∈ node.sequences, Apart siblings := by
  obtain ⟨calls, hcalls⟩ := parse_eq_ok_iff.1 h
  have hordered : AllOrdered nodes :=
    hcalls.ordered (Cursor.sound_start source) Builder.ordered_empty
  refine ⟨⟨calls, hcalls⟩, fun calls hcalls => hcalls.tiling, hordered.apart, ?_⟩
  exact Node.throughout_iff_occursIn.1 hordered.nodes

/-- Four items: a piece of raw text, the head of a block, raw text with an escape in it, and the
head that closes the block, which leaves no node. -/
theorem parse_tiles_block :
    let source : Source := ⟨"t", "a#if(b):\\#c#endif".toList⟩
    let nodes : List Node :=
      [.raw ⟨"t", 1, 1, 0, 1⟩ "a",
        .conditional ⟨"t", 1, 2, 1, 8⟩
          [(.path ⟨"t", 1, 6, 5, 6⟩ ["b"], [.raw ⟨"t", 1, 9, 8, 11⟩ "#c"])]]
    parse source = .ok nodes ∧
      (∃ calls, Builder.empty.Consumes source .start calls nodes) ∧
      (∀ calls, Builder.empty.Consumes source .start calls nodes → Tiling source calls) ∧
      Apart nodes ∧
      ∀ node, Node.OccursIn node nodes → ∀ siblings ∈ node.sequences, Apart siblings := by
  refine ⟨?parsed, parse_tiles ?parsed⟩
  with_unfolding_all rfl

end Stencil
