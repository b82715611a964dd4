/-
Templates under other labels.

* **`parse_relabel`**, **`parseBytes_relabel`** — a source with another label has
  the same nodes under that label, or the same error;
* **`mem_extendedInAll_parseBytes`** — the templates that a source extends do not
  depend on its label.

The builder is shown to go along with `relabel` operation by operation, in the
order in which `Builder.read` uses them.
-/
import Stencil.Proofs.Relabelling.Parameters

namespace Stencil

variable {f : String → String}

/-! ### Heads and segments -/

namespace Head

theorem collect_relabel (source : Source) (opening : Nat) (text : List Char) (offset depth : Nat)
    (done : List Lexeme) :
    collect (source.relabel f) opening text offset depth done =
      relabelResult f id (collect source opening text offset depth done) := by
  fun_induction collect source opening text offset depth done with
  | case1 text offset depth done heq =>
    rw [collect]
    split <;> simp_all [relabelResult, ParseError.relabel]
  | case2 text offset depth done first start stop rest stop' heq =>
    rw [collect]
    split <;> simp_all [relabelResult, ParseError.relabel]
  | case3 text offset depth done lexeme rest stop heq hlt htoken ih =>
    rw [collect, ← ih]
    split <;> simp_all
  | case4 text offset done lexeme rest stop heq hlt htoken =>
    rw [collect]
    split <;> simp_all [relabelResult]
  | case5 text offset done lexeme rest stop heq hlt depth htoken ih =>
    rw [collect, ← ih]
    split <;> simp_all
  | case6 text offset depth done lexeme rest stop heq hlt _ _ _ ih =>
    rw [collect, ← ih]
    split <;> simp_all

theorem recognize_relabel (source : Source) (closer : Option String) (start : Nat)
    (text : List Char) :
    recognize (source.relabel f) closer start text =
      relabelResult f id (recognize source closer start text) := by
  unfold recognize
  dsimp only
  split
  · rw [collect_relabel]
    cases collect source _ _ _ _ _ <;> rfl
  · split <;> rfl

end Head

theorem Segment.scanFrom_relabel (source : Source) (closer : Option String) (start : Nat)
    (text : List Char) (offset : Nat) (done : List Char) :
    scanFrom (source.relabel f) closer start text offset done =
      relabelResult f id (scanFrom source closer start text offset done) := by
  fun_induction scanFrom source closer start text offset done with
  | case1 => rfl
  | case2 offset done rest ih =>
    rw [scanFrom]
    exact ih
  | case3 offset done rest error heq =>
    rw [scanFrom, Head.recognize_relabel, heq]
    rfl
  | case4 offset done rest head behind heq =>
    rw [scanFrom, Head.recognize_relabel, heq]
    rfl
  | case5 offset done rest heq ih =>
    rw [scanFrom, Head.recognize_relabel, heq]
    exact ih
  | case6 offset done c rest hescape hhash ih =>
    rw [scanFrom]
    · exact ih
    · exact hescape
    · exact hhash

theorem Segment.scan_relabel (source : Source) (closer : Option String) (text : List Char)
    (offset : Nat) :
    scan (source.relabel f) closer text offset =
      relabelResult f id (scan source closer text offset) :=
  scanFrom_relabel source closer offset text offset []

/-! ### What a head starts -/

/-- A block under other labels. -/
def Block.relabel (f : String → String) : Block → Block
  | .tag span name parameters =>
    .tag (span.relabel f) name (parameters.map (Node.relabel f))
  | .loop span key data => .loop (span.relabel f) (key.relabel f) (data.relabel f)
  | .chain span opened branches condition isLast =>
    .chain (span.relabel f) (opened.relabel f) (Node.relabelBranches f branches)
      (condition.relabel f) isLast
  | .extend span path exports => .extend (span.relabel f) path (Node.relabelExports f exports)
  | .exporting span path exports name opened =>
    .exporting (span.relabel f) path (Node.relabelExports f exports) name (opened.relabel f)

@[simp] theorem Block.name_relabel (block : Block) : (block.relabel f).name = block.name := by
  cases block <;> rfl

@[simp] theorem Block.closer_relabel (block : Block) :
    (block.relabel f).closer = block.closer := by
  rw [closer, closer, name_relabel]

@[simp] theorem Block.opened_relabel (block : Block) :
    (block.relabel f).opened = block.opened.relabel f := by
  cases block <;> rfl

/-- What a head starts, under other labels. -/
def Opening.relabel (f : String → String) : Opening → Opening
  | .node single => .node (single.relabel f)
  | .block opened => .block (opened.relabel f)

namespace Head

variable (source : Source) (head : Head)

theorem list_relabel : head.list (source.relabel f) = relabelResult f id (head.list source) := by
  unfold list
  cases head.parameters <;> rfl

theorem single_relabel :
    head.single (source.relabel f) = relabelResult f (Node.relabel f) (head.single source) := by
  unfold single
  rw [list_relabel]
  refine relabelResult_bind fun list => ?_
  rw [id, ParameterList.read_relabel]
  refine relabelResult_bind fun nodes => ?_
  match nodes with
  | [node] => rfl
  | [] => rfl
  | _ :: _ :: _ => simp [relabelResult, ParseError.relabel, blame, span]

theorem literal_relabel :
    head.literal (source.relabel f) = relabelResult f id (head.literal source) := by
  unfold literal
  rw [single_relabel]
  refine relabelResult_bind fun node => ?_
  cases node with
  | literal span value => cases value <;> rfl
  | tag span name parameters body => cases body <;> rfl
  | _ => rfl

theorem requireBody_relabel :
    head.requireBody (source.relabel f) = relabelResult f id (head.requireBody source) := by
  unfold requireBody
  split <;> rfl

theorem forbidBody_relabel :
    head.forbidBody (source.relabel f) = relabelResult f id (head.forbidBody source) := by
  unfold forbidBody
  split <;> rfl

theorem interpretIf_relabel :
    head.interpretIf (source.relabel f) =
      relabelResult f (Opening.relabel f) (head.interpretIf source) := by
  unfold interpretIf
  rw [single_relabel]
  refine relabelResult_bind fun condition => ?_
  rw [requireBody_relabel]
  exact relabelResult_bind fun _ => rfl

theorem interpretFor_relabel :
    head.interpretFor (source.relabel f) =
      relabelResult f (Opening.relabel f) (head.interpretFor source) := by
  unfold interpretFor
  rw [list_relabel]
  refine relabelResult_bind fun list => ?_
  rw [id, ParameterList.readHeader_relabel]
  refine relabelResult_bind fun header => ?_
  dsimp only
  rw [requireBody_relabel]
  exact relabelResult_bind fun _ => rfl

theorem interpretExtend_relabel :
    head.interpretExtend (source.relabel f) =
      relabelResult f (Opening.relabel f) (head.interpretExtend source) := by
  unfold interpretExtend
  rw [literal_relabel]
  refine relabelResult_bind fun path => ?_
  by_cases hbody : head.hasBody
  · simp only [hbody, if_true]
    rfl
  · simp only [hbody]
    rfl

theorem interpretImport_relabel :
    head.interpretImport (source.relabel f) =
      relabelResult f (Opening.relabel f) (head.interpretImport source) := by
  unfold interpretImport
  rw [literal_relabel]
  refine relabelResult_bind fun name => ?_
  rw [forbidBody_relabel]
  exact relabelResult_bind fun _ => rfl

theorem interpretEmbed_relabel :
    head.interpretEmbed (source.relabel f) =
      relabelResult f (Opening.relabel f) (head.interpretEmbed source) := by
  unfold interpretEmbed
  rw [single_relabel]
  refine relabelResult_bind fun target => ?_
  rw [forbidBody_relabel]
  exact relabelResult_bind fun _ => rfl

theorem interpretTag_relabel :
    head.interpretTag (source.relabel f) =
      relabelResult f (Opening.relabel f) (head.interpretTag source) := by
  have hrest : ∀ parameters : List Node,
      Except.ok (if head.hasBody then
          Opening.block (.tag (head.span (source.relabel f)) head.name
            (parameters.map (Node.relabel f)))
        else .node (.tag (head.span (source.relabel f)) head.name
          (parameters.map (Node.relabel f)) none)) =
      relabelResult f (Opening.relabel f) (.ok (if head.hasBody then
          Opening.block (.tag (head.span source) head.name parameters)
        else .node (.tag (head.span source) head.name parameters none))) := by
    intro parameters
    by_cases hbody : head.hasBody
    · rw [if_pos hbody, if_pos hbody]
      rfl
    · rw [if_neg hbody, if_neg hbody, relabelResult, Opening.relabel, Node.relabel,
        Node.relabelAll_eq_map]
      rfl
  unfold interpretTag
  cases head.parameters with
  | none => exact hrest []
  | some list =>
    dsimp only
    rw [ParameterList.read_relabel]
    exact relabelResult_bind hrest

/-- What a head starts goes along with relabelling. -/
theorem interpret_relabel :
    head.interpret (source.relabel f) =
      relabelResult f (Opening.relabel f) (head.interpret source) := by
  unfold interpret
  split
  · exact interpretIf_relabel source head
  · exact interpretFor_relabel source head
  · exact interpretExtend_relabel source head
  · exact interpretImport_relabel source head
  · exact interpretEmbed_relabel source head
  · rfl
  · split
    · rfl
    · exact interpretTag_relabel source head

/-- The parts of an export under other labels. -/
def relabelExport (f : String → String) (entry : String × Option Node) : String × Option Node :=
  (entry.1, entry.2.map (Node.relabel f))

theorem interpretExport_relabel :
    head.interpretExport (source.relabel f) =
      relabelResult f (relabelExport f) (head.interpretExport source) := by
  unfold interpretExport
  rw [list_relabel]
  refine relabelResult_bind fun list => ?_
  rw [id, ParameterList.read_relabel]
  refine relabelResult_bind fun nodes => ?_
  match nodes with
  | [] => rfl
  | node :: values =>
    cases node with
    | literal span value =>
      cases value with
      | text name => match values, head.hasBody with
        | [], true | [], false | [_], true | [_], false => rfl
        | _ :: _ :: _, _ => rfl
      | _ => rfl
    | tag span name parameters body => cases body <;> rfl
    | _ => rfl

end Head

/-! ### The builder -/

namespace Builder

/-- Open blocks under other labels. -/
def relabelOuter (f : String → String) (outer : List (Block × List Node)) :
    List (Block × List Node) :=
  outer.map fun entry => (entry.1.relabel f, entry.2.map (Node.relabel f))

/-- A builder under other labels. -/
def relabel (f : String → String) (builder : Builder) : Builder :=
  ⟨builder.siblings.map (Node.relabel f), relabelOuter f builder.outer⟩

theorem closer_relabel (builder : Builder) : (builder.relabel f).closer = builder.closer := by
  obtain ⟨siblings, outer⟩ := builder
  cases outer with
  | nil => rfl
  | cons entry outer => simp [closer, relabel, relabelOuter]

theorem start_relabel (builder : Builder) (opening : Opening) :
    (builder.relabel f).start (opening.relabel f) = (builder.start opening).relabel f := by
  cases opening <;> rfl

theorem declare_relabel (span : Span) (path : String) (exports : List (String × List Node))
    (name : String) (value : List Node) (opened : Span) :
    declare (span.relabel f) path (Node.relabelExports f exports) name
        (value.map (Node.relabel f)) (opened.relabel f) =
      relabelResult f (Block.relabel f) (declare span path exports name value opened) := by
  rw [Node.relabelExports_eq_map, declare, declare, Keyed.find?_map, Keyed.insert_map]
  cases Keyed.find? name exports with
  | some _ => rfl
  | none =>
    rw [relabelResult, Block.relabel, Node.relabelExports_eq_map]
    rfl

theorem close_relabel (block : Block) (siblings before : List Node)
    (outer : List (Block × List Node)) :
    close (block.relabel f) (siblings.map (Node.relabel f)) (before.map (Node.relabel f))
        (relabelOuter f outer) =
      relabelResult f (relabel f) (close block siblings before outer) := by
  cases block with
  | tag span name parameters => simp [close, relabelResult, relabel, Block.relabel, Node.relabel]
  | loop span key data => simp [close, relabelResult, relabel, Block.relabel, Node.relabel]
  | chain span opened branches condition isLast =>
    simp [close, relabelResult, relabel, Block.relabel, Node.relabel]
  | extend span name exports => simp [close, relabelResult, relabel, Block.relabel, Node.relabel]
  | exporting span name exports key opened =>
    -- The end of an export is where its name can turn out to be taken.
    simp only [close, Block.relabel, ← List.map_reverse, declare_relabel]
    cases declare span name exports key siblings.reverse opened <;> rfl

theorem addExport_relabel (source : Source) (head : Head) (span : Span) (path : String)
    (exports : List (String × List Node)) (before : List Node)
    (outer : List (Block × List Node)) :
    addExport (source.relabel f) head (span.relabel f) path (Node.relabelExports f exports)
        (before.map (Node.relabel f)) (relabelOuter f outer) =
      relabelResult f (relabel f) (addExport source head span path exports before outer) := by
  unfold addExport
  by_cases hname : head.name = "export"
  · rw [if_pos hname, if_pos hname, Head.interpretExport_relabel]
    refine relabelResult_bind fun entry => ?_
    obtain ⟨name, value⟩ := entry
    cases value with
    | none => rfl
    | some value =>
      have := declare_relabel (f := f) span path exports name [value] (head.span source)
      exact (congrArg (· >>= _) this).trans (relabelResult_bind fun block => rfl)
  · rw [if_neg hname, if_neg hname]
    rfl

theorem addOther_relabel (source : Source) (builder : Builder) (head : Head) :
    (builder.relabel f).addOther (source.relabel f) head =
      relabelResult f (relabel f) (builder.addOther source head) := by
  have hstart : (head.interpret (source.relabel f) >>= fun opening =>
      .ok ((builder.relabel f).start opening)) =
      relabelResult f (relabel f) (head.interpret source >>= fun opening =>
        .ok (builder.start opening)) := by
    rw [Head.interpret_relabel]
    exact relabelResult_bind fun opening => congrArg Except.ok (start_relabel builder opening)
  obtain ⟨siblings, outer⟩ := builder
  match outer with
  | [] => exact hstart
  | (.extend span path exports, before) :: outer =>
    exact addExport_relabel source head span path exports before outer
  | (.chain span opened branches condition false, before) :: outer =>
    -- The next branch of a chain closes the one before it.
    have hdone : Node.relabelBranches f ((condition, siblings.reverse) :: branches) =
        (condition.relabel f, (siblings.map (Node.relabel f)).reverse) ::
          Node.relabelBranches f branches := by
      rw [Node.relabelBranches, Node.relabelAll_eq_map, List.map_reverse]
    simp only [addOther, relabel, relabelOuter, List.map_cons, Block.relabel, ← hdone]
    by_cases helseif : head.name = "elseif"
    · rw [if_pos helseif, if_pos helseif, Head.single_relabel]
      exact relabelResult_bind fun next => rfl
    · rw [if_neg helseif, if_neg helseif]
      by_cases helse : head.name = "else"
      · rw [if_pos helse, if_pos helse]
        rfl
      · rw [if_neg helse, if_neg helse]
        exact hstart
  | (.chain span opened branches condition true, before) :: outer => exact hstart
  | (.tag .., _) :: _ | (.loop .., _) :: _ | (.exporting .., _) :: _ => exact hstart

theorem addHead_relabel (source : Source) (builder : Builder) (head : Head) :
    (builder.relabel f).addHead (source.relabel f) head =
      relabelResult f (relabel f) (builder.addHead source head) := by
  have hother := addOther_relabel (f := f) source builder head
  obtain ⟨siblings, outer⟩ := builder
  cases outer with
  | nil => exact hother
  | cons entry outer =>
    obtain ⟨block, before⟩ := entry
    have hclose := close_relabel (f := f) block siblings before outer
    simp only [addHead, relabel, relabelOuter, List.map_cons, Block.closer_relabel]
    by_cases hname : head.name = block.closer
    · rw [if_pos hname, if_pos hname]
      exact hclose
    · rw [if_neg hname, if_neg hname]
      exact hother

theorem addText_relabel (source : Source) (builder : Builder) (segment : Segment) :
    (builder.relabel f).addText (source.relabel f) segment =
      relabelResult f (relabel f) (builder.addText source segment) := by
  obtain ⟨siblings, outer⟩ := builder
  unfold addText
  split
  · rfl
  · cases outer with
    | nil => rfl
    | cons entry outer =>
      obtain ⟨block, before⟩ := entry
      cases block with
      | extend span path exports =>
        -- Nothing but blanks may stand between exports.
        simp only [relabel, relabelOuter, List.map_cons, Block.relabel]
        by_cases hblank : segment.text.toList.all isWhite
        · rw [if_pos hblank, if_pos hblank]
          rfl
        · rw [if_neg hblank, if_neg hblank]
          rfl
      | _ => rfl

theorem finish_relabel (builder : Builder) :
    (builder.relabel f).finish = relabelResult f (List.map (Node.relabel f)) builder.finish := by
  obtain ⟨siblings, outer⟩ := builder
  cases outer with
  | nil => simp [finish, relabel, relabelOuter, relabelResult]
  | cons entry outer => simp [finish, relabel, relabelOuter, relabelResult, ParseError.relabel]

theorem read_relabel (source : Source) (builder : Builder) (text : List Char) (offset : Nat) :
    (builder.relabel f).read (source.relabel f) text offset =
      relabelResult f (List.map (Node.relabel f)) (builder.read source text offset) := by
  -- The text behind a head is shorter than the text that was scanned for it.
  induction hlength : text.length using Nat.strongRecOn generalizing builder text offset with
  | _ length ih =>
    subst hlength
    rw [read_eq, read_eq source, closer_relabel, Segment.scan_relabel]
    refine relabelResult_bind_of_ok fun segment hscan => ?_
    rw [id, addText_relabel]
    refine relabelResult_bind fun builder => ?_
    cases hhead : segment.head with
    | none => exact finish_relabel builder
    | some head =>
      dsimp only
      rw [addHead_relabel]
      refine relabelResult_bind fun builder => ?_
      have hrest := Segment.scan_length hscan (by rw [hhead]; rfl)
      exact ih _ hrest builder segment.rest head.stop rfl

end Builder

/-! ### Templates -/

/-- A source with another label has the same nodes under that label. -/
theorem parse_relabel (source : Source) :
    parse (source.relabel f) = relabelResult f (List.map (Node.relabel f)) (parse source) :=
  Builder.read_relabel source Builder.empty source.text 0

theorem encodingError_relabel (bytes : ByteArray) (label : String) :
    encodingError bytes (f label) = (encodingError bytes label).relabel f := by
  simp only [encodingError, ParseError.relabel, Span.relabel, Source.span, Source.place]

theorem parseBytes_relabel (bytes : ByteArray) (label : String) :
    parseBytes bytes (f label) =
      relabelResult f (List.map (Node.relabel f)) (parseBytes bytes label) := by
  unfold parseBytes
  cases String.fromUTF8? bytes with
  | none =>
    dsimp only
    rw [encodingError_relabel, relabelResult]
  | some text => exact parse_relabel (Source.ofString label text)

/-- The templates that a source extends do not depend on its label. -/
theorem mem_extendedInAll_parseBytes {bytes : ByteArray} {label label' : String}
    {nodes : List Node} (h : parseBytes bytes label = .ok nodes) :
    ∃ nodes', parseBytes bytes label' = .ok nodes' ∧
      ∀ name, name ∈ Node.extendedInAll nodes' ↔ name ∈ Node.extendedInAll nodes := by
  refine ⟨nodes.map (Node.relabel fun _ => label'), ?_, fun name => ?_⟩
  · exact (parseBytes_relabel (f := fun _ => label') bytes label).trans (by rw [h]; rfl)
  · exact Node.extendedInAll_map_relabel _ nodes

end Stencil
