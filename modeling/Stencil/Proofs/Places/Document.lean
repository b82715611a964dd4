/-
The places of templates.

* **`Head.collect_located`**, **`Head.recognize_located`**, **`Segment.scan_located`** —
  heads and raw text stand where their offsets say;
* **`Builder.Located`** — a builder holds true places only;
* **`parse_located`** — all places of the nodes of a template are true, and so is
  that of its error.
-/
import Stencil.Document
import Stencil.Proofs.Places.Parameters

namespace Stencil

variable {source : Source}

/-! ### Closing parentheses -/

namespace Stretch

theorem number_ne_closing (whole rest : List Char) :
    (number whole rest).token ≠ some .closing := by
  unfold number integer
  split
  · simp
  · dsimp only
    split <;> simp

theorem string_ne_closing (text : List Char) : (string text).token ≠ some .closing := by
  unfold string
  dsimp only
  split <;> simp

theorem eq_of_symbol1_closing {c : Char} (h : symbol1 c = some .closing) : c = ')' := by
  unfold symbol1 at h
  split at h
  case h_2 => rfl
  all_goals cases h

theorem symbol2_ne_closing (c d : Char) : symbol2 c d ≠ some .closing := by
  unfold symbol2
  split <;> simp

/-- A closing parenthesis is cut off alone. -/
theorem cut_closing (rest : List Char) : cut ')' rest = ⟨some .closing, [')'], rest⟩ := by
  cases rest <;> rfl

theorem eq_of_cut_closing {c : Char} {rest : List Char}
    (h : (cut c rest).token = some .closing) : c = ')' := by
  unfold cut at h
  split at h
  · exact absurd (Option.some.inj h) (word_ne _).2
  split at h
  · exact absurd h (number_ne_closing _ _)
  split at h
  · exact absurd h (string_ne_closing _)
  unfold symbol at h
  split at h
  · exact eq_of_symbol1_closing h
  · rename_i d more
    split at h
    · rename_i htoken
      exact absurd (htoken.trans h) (symbol2_ne_closing c d)
    · exact eq_of_symbol1_closing h

/-- A closing parenthesis is one byte. -/
theorem byteLength_of_closing {c : Char} {rest : List Char}
    (h : (cut c rest).token = some .closing) : byteLength (cut c rest).chars = 1 := by
  rw [eq_of_cut_closing h, cut_closing]
  rfl

end Stretch

theorem nextPiece_closing {text rest : List Char} {offset stop : Nat} {lexeme : Lexeme}
    (h : nextPiece text offset = some (.lexeme lexeme, rest, stop))
    (hclosing : lexeme.token = .closing) : stop = lexeme.start + 1 := by
  unfold nextPiece at h
  split at h
  · cases h
  · rename_i c tail start hskip
    dsimp only at h
    split at h
    · rename_i token htoken
      cases h
      rw [Stretch.byteLength_of_closing (htoken.trans (congrArg some hclosing))]
    · cases h

/-! ### Heads -/

namespace Head

variable {text : List Char} {closer : Option String}

/-- The parameter list of a head stands in the source, and the text behind its closing
parenthesis is left. -/
theorem collect_located {opening low offset depth : Nat} {done : List Lexeme}
    (hopening : source.Locates (source.span opening (opening + 1))) (hat : source.At text offset)
    (hdone : Spaced source low done.reverse offset) :
    Located source (fun result => result.1.Stands source ∧ low ≤ result.1.closing ∧
        source.At result.2 (result.1.closing + 1))
      (collect source opening text offset depth done) := by
  fun_induction collect source opening text offset depth done with
  | case1 => exact .of_locates hopening rfl
  | case2 text offset depth done first start stop rest stop' heq =>
    obtain ⟨hrest, start', -, hle, hstart, rfl, rfl⟩ := nextPiece_at hat heq
    exact .of_locates (Source.locates_span hstart hrest.isBoundary hle) rfl
  | case4 text offset done lexeme rest stop heq hlt htoken =>
    obtain ⟨hrest, start, hlow, hle, hstart, rfl, rfl⟩ := nextPiece_at hat heq
    have hspaced : Spaced source low done.reverse lexeme.start := hdone.mono hlow
    rw [nextPiece_closing heq htoken] at hrest
    exact ⟨⟨⟨low, hspaced⟩, hstart⟩, hspaced.le, hrest⟩
  | case3 text offset depth done lexeme rest stop heq hlt htoken ih
  | case5 text offset done lexeme rest stop heq hlt depth htoken ih
  | case6 text offset depth done lexeme rest stop heq hlt _ _ _ ih =>
    obtain ⟨hrest, hspaced⟩ := hdone.nextPiece hat heq
    exact ih hrest hspaced

/-- A head stands in the source, with its parameter list. -/
structure Stands (source : Source) (head : Head) : Prop where
  span : source.Locates (head.span source)
  parameters : ∀ list, head.parameters = some list → list.Stands source

/-- The head that ends at a cursor, or behind a colon there. -/
theorem complete_located {name : String} {parameters : Option ParameterList} {start cursor : Nat}
    (hstart : source.IsBoundary start) (hat : source.At text cursor) (hle : start ≤ cursor)
    (hparameters : ∀ list, parameters = some list → list.Stands source) :
    (complete name parameters start cursor text).1.Stands source ∧
      source.At (complete name parameters start cursor text).2
        (complete name parameters start cursor text).1.stop := by
  unfold complete colon
  split
  · split
    · exact ⟨⟨Source.locates_span hstart hat.isBoundary hle, hparameters⟩, hat⟩
    · have hbehind := hat.tail
      exact ⟨⟨Source.locates_span hstart hbehind.isBoundary (Nat.le_succ_of_le hle), hparameters⟩,
        hbehind⟩
  · exact ⟨⟨Source.locates_span hstart hat.isBoundary hle, hparameters⟩, hat⟩

/-- A head that is recognized stands in the source, and so does the text behind it. -/
theorem recognize_located {start : Nat} (hat : source.At ('#' :: text) start) :
    Located source
      (fun result => ∀ head rest, result = some (head, rest) →
        head.Stands source ∧ source.At rest head.stop)
      (recognize source closer start text) := by
  obtain ⟨chars, behind, rfl, hnames⟩ := exists_names closer text
  have hcursor : source.At behind (start + 1 + byteLength chars) := hat.tail.advance
  by_cases hopening : behind.head? = some '('
  · obtain ⟨parameters, rfl⟩ := List.head?_eq_some_iff.1 hopening
    have hrest : source.At parameters (start + 1 + byteLength chars + 1) := hcursor.tail
    have hplace : source.Locates (source.span (start + 1 + byteLength chars)
        (start + 1 + byteLength chars + 1)) :=
      Source.locates_span hcursor.isBoundary hrest.isBoundary (Nat.le_succ _)
    have hcollect := @collect_located source parameters _ _ _ 0 [] hplace hrest (Nat.le_refl _)
    rw [hnames.recognize_opening]
    split
    · rename_i error herror
      rw [herror] at hcollect
      exact hcollect
    · rename_i list rest' hok
      rw [hok] at hcollect
      obtain ⟨hlist, hlow, hrest'⟩ : list.Stands source ∧
        start + 1 + byteLength chars + 1 ≤ list.closing ∧ source.At rest' (list.closing + 1) :=
        hcollect
      rintro _ _ ⟨⟩
      refine complete_located hat.isBoundary hrest' (by omega) ?_
      rintro _ ⟨⟩
      exact hlist
  · rw [hnames.recognize_bare hopening]
    split
    · rintro _ _ ⟨⟩
      exact complete_located hat.isBoundary hcursor (by omega) (by rintro _ ⟨⟩)
    · rintro _ _ ⟨⟩

end Head

/-! ### Segments -/

namespace Segment

/-- A segment stands in the source, with its head and the text left behind that. -/
structure Stands (source : Source) (segment : Segment) : Prop where
  span : source.Locates (source.span segment.start segment.stop)
  head : ∀ head, segment.head = some head →
    head.Stands source ∧ source.At segment.rest head.stop

theorem scanFrom_located {closer : Option String} {start offset : Nat} {text done : List Char}
    (hstart : source.IsBoundary start) (hat : source.At text offset) (hle : start ≤ offset) :
    Located source (Stands source) (scanFrom source closer start text offset done) := by
  fun_induction scanFrom source closer start text offset done with
  | case1 offset done =>
    exact ⟨Source.locates_span hstart hat.isBoundary hle, by rintro _ ⟨⟩⟩
  | case2 offset done rest ih =>
    exact ih hat.tail.tail (Nat.le_trans hle (Nat.le_add_right _ _))
  | case3 rest offset done error heq =>
    have hhead := @Head.recognize_located source rest closer offset hat
    rw [heq] at hhead
    exact hhead
  | case4 rest offset done head behind heq =>
    have hhead := @Head.recognize_located source rest closer offset hat
    rw [heq] at hhead
    refine ⟨Source.locates_span hstart hat.isBoundary hle, ?_⟩
    rintro _ ⟨⟩
    exact hhead head behind rfl
  | case5 offset done rest heq ih => exact ih hat.tail (Nat.le_succ_of_le hle)
  | case6 offset done c rest _ _ ih =>
    exact ih hat.tail (Nat.le_trans hle (Nat.le_add_right _ _))

/-- A segment that is cut off stands in the source. -/
theorem scan_located {closer : Option String} {offset : Nat} {text : List Char}
    (hat : source.At text offset) :
    Located source (Stands source) (scan source closer text offset) :=
  scanFrom_located hat.isBoundary hat (Nat.le_refl offset)

theorem stands_of_scan {closer : Option String} {offset : Nat} {text : List Char}
    {segment : Segment} (hat : source.At text offset)
    (h : scan source closer text offset = .ok segment) : segment.Stands source := by
  have hsegment : Located source (Stands source) (scan source closer text offset) :=
    scan_located hat
  rwa [h] at hsegment

end Segment

/-! ### What a head starts -/

/-- The places of a block are true. -/
def Block.Located (source : Source) : Block → Prop
  | .tag span _ parameters => source.Locates span ∧ LocatedAll source parameters
  | .loop span key data =>
    source.Locates span ∧ key.LocatedIn source ∧ data.LocatedIn source
  | .chain span opened branches condition _ =>
    source.Locates span ∧ source.Locates opened ∧ condition.LocatedIn source ∧
      ∀ branch ∈ branches, LocatedAll source (branch.1 :: branch.2)
  | .extend span _ exports =>
    source.Locates span ∧ ∀ entry ∈ exports, LocatedAll source entry.2
  | .exporting span _ exports _ opened =>
    source.Locates span ∧ source.Locates opened ∧ ∀ entry ∈ exports, LocatedAll source entry.2

theorem Block.Located.opened {block : Block} (h : block.Located source) :
    source.Locates block.opened := by
  cases block with
  | tag | loop | extend => exact h.1
  | chain | exporting => exact h.2.1

/-- What a head starts has true places. -/
def Opening.Located (source : Source) : Opening → Prop
  | .node single => single.LocatedIn source
  | .block opened => opened.Located source

namespace Head

variable {head : Head}

theorem Stands.blame (h : head.Stands source) {fault : Fault} (hfault : fault.isEnd = false) :
    (head.blame source fault).LocatedIn source :=
  .of_locates h.span hfault

theorem Stands.list (h : head.Stands source) :
    Located source (ParameterList.Stands source) (head.list source) := by
  unfold Head.list
  split
  · exact h.parameters _ ‹_›
  · exact h.blame rfl

theorem Stands.single (h : head.Stands source) :
    Located source (Node.LocatedIn source) (head.single source) := by
  refine h.list.bind fun list hlist => ?_
  refine (ParameterList.read_located hlist).bind fun nodes hnodes => ?_
  split
  · exact hnodes _ (List.mem_cons_self ..)
  · exact h.blame rfl

theorem Stands.literal (h : head.Stands source) :
    Located source (fun _ => True) (head.literal source) := by
  refine h.single.bind fun node hnode => ?_
  split
  · trivial
  · exact .of_locates hnode.span rfl

theorem Stands.requireBody (h : head.Stands source) :
    Located source (fun _ => True) (head.requireBody source) := by
  unfold Head.requireBody
  split
  · trivial
  · exact h.blame rfl

theorem Stands.forbidBody (h : head.Stands source) :
    Located source (fun _ => True) (head.forbidBody source) := by
  unfold Head.forbidBody
  split
  · exact h.blame rfl
  · trivial

theorem Stands.interpretIf (h : head.Stands source) :
    Located source (Opening.Located source) (head.interpretIf source) :=
  h.single.bind fun _ hcondition => h.requireBody.bind fun _ _ =>
    ⟨h.span, h.span, hcondition, by simp⟩

theorem Stands.interpretFor (h : head.Stands source) :
    Located source (Opening.Located source) (head.interpretFor source) :=
  h.list.bind fun _ hlist => (ParameterList.readHeader_located hlist).bind fun _ hheader =>
    h.requireBody.bind fun _ _ => ⟨h.span, hheader⟩

theorem Stands.interpretExtend (h : head.Stands source) :
    Located source (Opening.Located source) (head.interpretExtend source) := by
  refine h.literal.bind fun path _ => ?_
  dsimp only
  split
  · exact ⟨h.span, by simp⟩
  · exact Node.LocatedIn.of_children h.span (by simp [Node.children])

theorem Stands.interpretImport (h : head.Stands source) :
    Located source (Opening.Located source) (head.interpretImport source) :=
  h.literal.bind fun _ _ => h.forbidBody.bind fun _ _ =>
    Node.LocatedIn.of_children h.span (by simp [Node.children])

theorem Stands.interpretEmbed (h : head.Stands source) :
    Located source (Opening.Located source) (head.interpretEmbed source) :=
  h.single.bind fun _ hpath => h.forbidBody.bind fun _ _ =>
    Node.LocatedIn.of_children h.span (by simpa [Node.children] using hpath)

theorem Stands.interpretTag (h : head.Stands source) :
    Located source (Opening.Located source) (head.interpretTag source) := by
  have hrest (parameters : List Node) (hnodes : LocatedAll source parameters) :
      Located source (Opening.Located source) (.ok (if head.hasBody then
          .block (.tag (head.span source) head.name parameters)
        else .node (.tag (head.span source) head.name parameters none))) := by
    split
    · exact ⟨h.span, hnodes⟩
    · exact Node.LocatedIn.of_children h.span (by simpa [Node.children, LocatedAll] using hnodes)
  unfold Head.interpretTag
  cases hlist : head.parameters with
  | none => exact hrest [] fun node hnode => absurd hnode (by simp)
  | some list => exact (ParameterList.read_located (h.parameters list hlist)).bind hrest

/-- What a head starts where any tag may stand has true places. -/
theorem Stands.interpret (h : head.Stands source) :
    Located source (Opening.Located source) (head.interpret source) := by
  unfold Head.interpret
  split
  · exact h.interpretIf
  · exact h.interpretFor
  · exact h.interpretExtend
  · exact h.interpretImport
  · exact h.interpretEmbed
  · exact h.blame rfl
  · split
    · exact h.blame rfl
    · exact h.interpretTag

theorem Stands.interpretExport (h : head.Stands source) :
    Located source (fun entry => ∀ node, entry.2 = some node → node.LocatedIn source)
      (head.interpretExport source) := by
  refine h.list.bind fun list hlist => ?_
  refine (ParameterList.read_located hlist).bind fun nodes hnodes => ?_
  split
  · split
    · rintro _ ⟨⟩
      exact hnodes _ (by simp)
    · rintro _ ⟨⟩
    · exact h.blame rfl
  · exact h.blame rfl

end Head

/-! ### The builder -/

namespace Builder

/-- A builder holds true places. -/
structure Located (source : Source) (builder : Builder) : Prop where
  siblings : LocatedAll source builder.siblings
  outer : ∀ entry ∈ builder.outer, entry.1.Located source ∧ LocatedAll source entry.2

variable {builder : Builder} {outer : List (Block × List Node)}

theorem located_empty : empty.Located source :=
  ⟨fun node hnode => absurd hnode (by simp [empty]), by simp [empty]⟩

theorem Located.add (h : builder.Located source) {node : Node} (hnode : node.LocatedIn source) :
    (builder.add node).Located source :=
  ⟨List.forall_mem_cons.2 ⟨hnode, h.siblings⟩, h.outer⟩

/-- A block within others, with nothing in it yet. -/
theorem located_block {block : Block} {before : List Node} (hblock : block.Located source)
    (hbefore : LocatedAll source before)
    (houter : ∀ entry ∈ outer, entry.1.Located source ∧ LocatedAll source entry.2) :
    Located source ⟨[], (block, before) :: outer⟩ :=
  ⟨fun node hnode => absurd hnode (by simp), List.forall_mem_cons.2 ⟨⟨hblock, hbefore⟩, houter⟩⟩

theorem Located.start (h : builder.Located source) {opening : Opening}
    (hopening : opening.Located source) : (builder.start opening).Located source := by
  cases opening with
  | node single => exact h.add hopening
  | block opened => exact located_block hopening h.siblings h.outer

theorem declare_located {span opened : Span} {path name : String}
    {exports : List (String × List Node)} {value : List Node} (hspan : source.Locates span)
    (hopened : source.Locates opened) (hexports : ∀ entry ∈ exports, LocatedAll source entry.2)
    (hvalue : LocatedAll source value) :
    Stencil.Located source (Block.Located source)
      (declare span path exports name value opened) := by
  unfold declare
  split
  · exact .of_locates hopened rfl
  · refine ⟨hspan, ?_⟩
    intro entry hentry
    rcases Keyed.mem_of_mem_insert hentry with rfl | hentry
    · exact hvalue
    · exact hexports entry hentry

theorem close_located {block : Block} {siblings before : List Node} (hblock : block.Located source)
    (hsiblings : LocatedAll source siblings) (hbefore : LocatedAll source before)
    (houter : ∀ entry ∈ outer, entry.1.Located source ∧ LocatedAll source entry.2) :
    Stencil.Located source (Located source) (close block siblings before outer) := by
  have hbody : LocatedAll source siblings.reverse := fun node hnode =>
    hsiblings node (List.mem_reverse.1 hnode)
  -- The closed block is a node behind those before it.
  have hadd {node : Node} (hspan : source.Locates node.span)
      (hchildren : LocatedAll source node.children) : Located source ⟨node :: before, outer⟩ :=
    ⟨List.forall_mem_cons.2 ⟨.of_children hspan hchildren, hbefore⟩, houter⟩
  cases block with
  | tag span name parameters =>
    refine hadd hblock.1 ?_
    exact List.forall_mem_append.2 ⟨hblock.2, hbody⟩
  | loop span key data =>
    refine hadd hblock.1 ?_
    exact List.forall_mem_cons.2 ⟨hblock.2.1, List.forall_mem_cons.2 ⟨hblock.2.2, hbody⟩⟩
  | chain span opened branches condition isLast =>
    obtain ⟨hspan, -, hcondition, hbranches⟩ := hblock
    refine hadd hspan ?_
    intro child hchild
    obtain ⟨branch, hbranch, hchild⟩ := List.mem_flatMap.1 hchild
    rcases List.mem_cons.1 (List.mem_reverse.1 hbranch) with rfl | hbranch
    · exact List.forall_mem_cons.2 ⟨hcondition, hbody⟩ child hchild
    · exact hbranches branch hbranch child hchild
  | extend span path exports =>
    refine hadd hblock.1 ?_
    intro child hchild
    obtain ⟨entry, hentry, hchild⟩ := List.mem_flatMap.1 hchild
    exact hblock.2 entry hentry child hchild
  | exporting span path exports name opened =>
    obtain ⟨hspan, hopened, hexports⟩ := hblock
    have hdeclare := @declare_located source _ _ path name _ _ hspan hopened hexports hbody
    unfold close
    dsimp only
    split
    · rename_i error herror
      rw [herror] at hdeclare
      exact hdeclare
    · rename_i block hok
      rw [hok] at hdeclare
      exact located_block hdeclare hbefore houter

theorem addExport_located {head : Head} {span : Span} {path : String}
    {exports : List (String × List Node)} {before : List Node} (hhead : head.Stands source)
    (hblock : (Block.extend span path exports).Located source) (hbefore : LocatedAll source before)
    (houter : ∀ entry ∈ outer, entry.1.Located source ∧ LocatedAll source entry.2) :
    Stencil.Located source (Located source)
      (addExport source head span path exports before outer) := by
  unfold addExport
  split
  · refine hhead.interpretExport.bind fun entry hentry => ?_
    split
    · refine (declare_located hblock.1 hhead.span hblock.2 ?_).bind fun block hnext =>
        located_block hnext hbefore houter
      exact List.forall_mem_singleton.2 (hentry _ rfl)
    · exact located_block ⟨hblock.1, hhead.span, hblock.2⟩ hbefore houter
  · exact hhead.blame rfl

theorem Located.addOther (h : builder.Located source) {head : Head} (hhead : head.Stands source) :
    Stencil.Located source (Located source) (builder.addOther source head) := by
  obtain ⟨siblings, outer⟩ := builder
  have hstart : Stencil.Located source (Located source)
      (do .ok (Builder.start ⟨siblings, outer⟩ (← head.interpret source))) :=
    hhead.interpret.bind fun _ hopening => h.start hopening
  unfold Builder.addOther
  split
  · rename_i span path exports before outer houter
    obtain rfl := houter
    obtain ⟨⟨hblock, hbefore⟩, houter⟩ := List.forall_mem_cons.1 h.outer
    exact addExport_located hhead hblock hbefore houter
  · rename_i span opened branches condition before outer houter
    obtain rfl := houter
    obtain ⟨⟨⟨hspan, -, hcondition, hbranches⟩, hbefore⟩, houter⟩ := List.forall_mem_cons.1 h.outer
    -- The open branch is complete, and the next one opens.
    have hdone : ∀ branch ∈ (condition, siblings.reverse) :: branches,
        LocatedAll source (branch.1 :: branch.2) := by
      refine List.forall_mem_cons.2 ⟨List.forall_mem_cons.2 ⟨hcondition, ?_⟩, hbranches⟩
      exact fun node hnode => h.siblings node (List.mem_reverse.1 hnode)
    dsimp only
    split
    · exact hhead.single.bind fun next hnext =>
        located_block ⟨hspan, hhead.span, hnext, hdone⟩ hbefore houter
    · split
      · refine located_block ⟨hspan, hhead.span, ?_, hdone⟩ hbefore houter
        exact .of_children hhead.span (by simp [Node.children])
      · exact hstart
  · exact hstart

theorem Located.addHead (h : builder.Located source) {head : Head} (hhead : head.Stands source) :
    Stencil.Located source (Located source) (builder.addHead source head) := by
  unfold Builder.addHead
  split
  · rename_i block before outer houter
    split
    · obtain ⟨⟨hblock, hbefore⟩, houter⟩ := List.forall_mem_cons.1 (houter ▸ h.outer)
      exact close_located hblock h.siblings hbefore houter
    · exact h.addOther hhead
  · exact h.addOther hhead

theorem Located.addText (h : builder.Located source) {segment : Segment}
    (hspan : source.Locates (source.span segment.start segment.stop)) :
    Stencil.Located source (Located source) (builder.addText source segment) := by
  unfold Builder.addText
  split
  · exact h
  · dsimp only
    split
    · split
      · exact h
      · exact .of_locates hspan rfl
    · exact h.add (.of_children hspan (by simp [Node.children]))

theorem Located.finish (h : builder.Located source) :
    Stencil.Located source (LocatedAll source) builder.finish := by
  unfold Builder.finish
  split
  · exact fun node hnode => h.siblings node (List.mem_reverse.1 hnode)
  · rename_i block before outer houter
    exact .of_locates (h.outer (block, before) (by simp [houter])).1.opened rfl

/-- **Reading on keeps all places true.** -/
theorem Located.read (h : builder.Located source) {text : List Char} {offset : Nat}
    (hat : source.At text offset) :
    Stencil.Located source (LocatedAll source) (builder.read source text offset) := by
  induction hlength : text.length using Nat.strongRecOn generalizing builder text offset with
  | ind length ih =>
    rw [read_eq]
    cases hscan : Segment.scan source builder.closer text offset with
    | error error =>
      have hsegment := @Segment.scan_located source builder.closer offset text hat
      rw [hscan] at hsegment
      exact hsegment
    | ok segment =>
      have hsegment : segment.Stands source := Segment.stands_of_scan hat hscan
      refine (h.addText hsegment.span).bind fun builder hbuilder => ?_
      split
      · exact hbuilder.finish
      · rename_i head hhead
        obtain ⟨hstands, hrest⟩ := hsegment.head head hhead
        refine (hbuilder.addHead hstands).bind fun builder hbuilder => ?_
        have hlt := Segment.scan_length hscan (by simp [hhead])
        exact ih _ (hlength ▸ hlt) hbuilder hrest rfl

end Builder

/-- **All places of a template are true, and so is that of its error.** -/
theorem parse_located (source : Source) : Located source (LocatedAll source) (parse source) :=
  Builder.located_empty.read source.at_start

end Stencil
