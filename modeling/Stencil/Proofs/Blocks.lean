/-
What a builder can do with a segment.

* **`Head.Starts`**, **`Head.interpret_cases`** — what a head means where any tag may
  stand, one rule for each way;
* **`Builder.addText_cases`** — raw text is a node, or leaves the builder as it is;
* **`Builder.Adds`**, **`Builder.addHead_cases`** — all that one more head can do.

## Design notes

The rules say which block a head finds open and what its parameters are.  What is
kept while a template is read is then proved by cases on them, and the order in
which the functions look at a head matters here only.
-/
import Stencil.Document
import Stencil.Proofs.Results

namespace Stencil

/-! ### What a head starts -/

namespace Head

variable {source : Source} {head : Head}

/-- The parameters of a head. -/
def Reads (source : Source) (head : Head) (nodes : List Node) : Prop :=
  ∃ list, head.parameters = some list ∧ list.read source = .ok nodes

theorem list_eq_ok {list : ParameterList} (h : head.list source = .ok list) :
    head.parameters = some list := by
  unfold Head.list at h
  split at h
  · rename_i hlist
    cases h
    exact hlist
  · cases h

theorem single_eq_ok {node : Node} (h : head.single source = .ok node) :
    head.Reads source [node] := by
  obtain ⟨list, hlist, h⟩ := except_bind_eq_ok h
  obtain ⟨nodes, hnodes, h⟩ := except_bind_eq_ok h
  split at h
  · cases h
    exact ⟨list, list_eq_ok hlist, hnodes⟩
  · cases h

theorem literal_eq_ok {text : String} (h : head.literal source = .ok text) :
    ∃ place, head.Reads source [.literal place (.text text)] := by
  obtain ⟨node, hnode, h⟩ := except_bind_eq_ok h
  split at h
  · rename_i place text
    cases h
    exact ⟨place, single_eq_ok hnode⟩
  · cases h

theorem requireBody_eq_ok (h : head.requireBody source = .ok ()) : head.hasBody := by
  unfold requireBody at h
  split at h
  · assumption
  · cases h

theorem forbidBody_eq_ok (h : head.forbidBody source = .ok ()) : head.hasBody = false := by
  unfold forbidBody at h
  split at h
  · cases h
  · rename_i hbody
    simpa using hbody

/-- The parameters of a tag, which has none if its name stands alone. -/
def Takes (source : Source) (head : Head) (nodes : List Node) : Prop :=
  head.parameters = none ∧ nodes = [] ∨ head.Reads source nodes

/-- What a head starts where any tag may stand. -/
inductive Starts (source : Source) (head : Head) : Opening → Prop
  | chain {condition : Node} : head.name = "if" → head.hasBody →
      head.Reads source [condition] →
      Starts source head
        (.block (.chain (head.span source) (head.span source) [] condition false))
  | loop {list : ParameterList} {key data : Node} : head.name = "for" → head.hasBody →
      head.parameters = some list → list.readHeader source = .ok (key, data) →
      Starts source head (.block (.loop (head.span source) key data))
  | extend {path : String} {place : Span} : head.name = "extend" → head.hasBody = false →
      head.Reads source [.literal place (.text path)] →
      Starts source head (.node (.extend (head.span source) path []))
  | extendBlock {path : String} {place : Span} : head.name = "extend" → head.hasBody →
      head.Reads source [.literal place (.text path)] →
      Starts source head (.block (.extend (head.span source) path []))
  | imported {name : String} {place : Span} : head.name = "import" → head.hasBody = false →
      head.Reads source [.literal place (.text name)] →
      Starts source head (.node (.imported (head.span source) name))
  | embed {path : Node} : head.name = "embed" → head.hasBody = false →
      head.Reads source [path] →
      Starts source head (.node (.embed (head.span source) path))
  | tag {parameters : List Node} : head.hasBody = false → head.Takes source parameters →
      Starts source head (.node (.tag (head.span source) head.name parameters none))
  | tagBlock {parameters : List Node} : head.hasBody → head.Takes source parameters →
      Starts source head (.block (.tag (head.span source) head.name parameters))

variable {opening : Opening}

theorem interpretTag_cases (h : head.interpretTag source = .ok opening) :
    head.Starts source opening := by
  have hrest {parameters : List Node} (hparameters : head.Takes source parameters)
      (h : (.ok (if head.hasBody then .block (.tag (head.span source) head.name parameters)
        else .node (.tag (head.span source) head.name parameters none)) :
          Except ParseError Opening) = .ok opening) : head.Starts source opening := by
    by_cases hbody : head.hasBody
    · rw [if_pos hbody] at h
      cases h
      exact .tagBlock hbody hparameters
    · rw [if_neg hbody] at h
      cases h
      exact .tag (by simpa using hbody) hparameters
  unfold interpretTag at h
  cases hlist : head.parameters with
  | none =>
    rw [hlist] at h
    exact hrest (.inl ⟨hlist, rfl⟩) h
  | some list =>
    rw [hlist] at h
    obtain ⟨parameters, hread, h⟩ := except_bind_eq_ok h
    exact hrest (.inr ⟨list, hlist, hread⟩) h

/-- **A head starts something by one of the rules.** -/
theorem interpret_cases (h : head.interpret source = .ok opening) :
    head.Starts source opening := by
  unfold interpret at h
  split at h
  · rename_i hname
    obtain ⟨condition, hcondition, h⟩ := except_bind_eq_ok h
    obtain ⟨⟨⟩, hbody, h⟩ := except_bind_eq_ok h
    cases h
    exact .chain hname (requireBody_eq_ok hbody) (single_eq_ok hcondition)
  · rename_i hname
    obtain ⟨list, hlist, h⟩ := except_bind_eq_ok h
    obtain ⟨⟨key, data⟩, hheader, h⟩ := except_bind_eq_ok h
    obtain ⟨⟨⟩, hbody, h⟩ := except_bind_eq_ok h
    cases h
    exact .loop hname (requireBody_eq_ok hbody) (list_eq_ok hlist) hheader
  · rename_i hname
    obtain ⟨path, hpath, h⟩ := except_bind_eq_ok h
    obtain ⟨place, hread⟩ := literal_eq_ok hpath
    dsimp only at h
    by_cases hbody : head.hasBody
    · rw [if_pos hbody] at h
      cases h
      exact .extendBlock hname hbody hread
    · rw [if_neg hbody] at h
      cases h
      exact .extend hname (by simpa using hbody) hread
  · rename_i hname
    obtain ⟨name, hliteral, h⟩ := except_bind_eq_ok h
    obtain ⟨⟨⟩, hbody, h⟩ := except_bind_eq_ok h
    obtain ⟨place, hread⟩ := literal_eq_ok hliteral
    cases h
    exact .imported hname (forbidBody_eq_ok hbody) hread
  · rename_i hname
    obtain ⟨path, hpath, h⟩ := except_bind_eq_ok h
    obtain ⟨⟨⟩, hbody, h⟩ := except_bind_eq_ok h
    cases h
    exact .embed hname (forbidBody_eq_ok hbody) (single_eq_ok hpath)
  · cases h
  · split at h
    · cases h
    · exact interpretTag_cases h

/-- What an export declares. -/
theorem interpretExport_cases {name : String} {value : Option Node}
    (h : head.interpretExport source = .ok (name, value)) :
    ∃ place, (∃ node, value = some node ∧ head.hasBody = false ∧
        head.Reads source [.literal place (.text name), node]) ∨
      value = none ∧ head.hasBody ∧ head.Reads source [.literal place (.text name)] := by
  obtain ⟨list, hlist, h⟩ := except_bind_eq_ok h
  obtain ⟨nodes, hnodes, h⟩ := except_bind_eq_ok h
  split at h
  · rename_i place name values
    split at h
    · rename_i node hbody
      cases h
      exact ⟨place, .inl ⟨node, rfl, hbody, list, list_eq_ok hlist, hnodes⟩⟩
    · rename_i hbody
      cases h
      exact ⟨place, .inr ⟨rfl, hbody, list, list_eq_ok hlist, hnodes⟩⟩
    · cases h
  · cases h

end Head

/-! ### Blocks -/

/-- The node that a block makes of its body, unless the block is an export. -/
def Block.node? (body : List Node) : Block → Option Node
  | .tag span name parameters => some (.tag span name parameters (some body))
  | .loop span key data => some (.loop span key data body)
  | .chain span _ branches condition _ =>
    some (.conditional span (((condition, body) :: branches).reverse))
  | .extend span path exports => some (.extend span path exports)
  | .exporting .. => none

namespace Builder

variable {source : Source} {builder next : Builder} {head : Head}

/-- Raw text becomes a node, unless there is none or it is blank and stands between exports. -/
theorem addText_cases {segment : Segment} (h : builder.addText source segment = .ok next) :
    (next = builder ∧ (segment.text.isEmpty ∨
        builder.outer ≠ [] ∧ segment.text.toList.all isWhite)) ∨
      segment.text.isEmpty = false ∧
        next = builder.add (.raw (source.span segment.start segment.stop) segment.text) := by
  unfold addText at h
  by_cases hempty : segment.text.isEmpty
  · rw [if_pos hempty] at h
    cases h
    exact .inl ⟨rfl, .inl hempty⟩
  · rw [if_neg hempty] at h
    dsimp only at h
    split at h
    · rename_i hextend
      by_cases hwhite : segment.text.toList.all isWhite
      · rw [if_pos hwhite] at h
        cases h
        exact .inl ⟨rfl, .inr ⟨by simp [hextend], hwhite⟩⟩
      · rw [if_neg hwhite] at h
        cases h
    · cases h
      exact .inr ⟨by simpa using hempty, rfl⟩

/-- Raw text neither opens nor closes a block. -/
theorem outer_of_addText {segment : Segment} (h : builder.addText source segment = .ok next) :
    next.outer = builder.outer := by
  rcases addText_cases h with ⟨rfl, -⟩ | ⟨-, rfl⟩
  · rfl
  · rfl

/-- What becomes of a builder when it takes in a head. -/
inductive Adds (source : Source) (builder : Builder) (head : Head) : Builder → Prop
  /-- The head is a node, or opens a block. -/
  | start {opening : Opening} : head.Starts source opening →
      Adds source builder head (builder.start opening)
  /-- The next branch of a chain. -/
  | elseif {span opened : Span} {branches : List (Node × List Node)} {condition next : Node}
      {before : List Node} {outer : List (Block × List Node)} :
      builder.outer = (.chain span opened branches condition false, before) :: outer →
      head.name = "elseif" → head.Reads source [next] →
      Adds source builder head
        ⟨[], (.chain span (head.span source) ((condition, builder.siblings.reverse) :: branches)
          next false, before) :: outer⟩
  /-- The last branch of a chain. -/
  | otherwise {span opened : Span} {branches : List (Node × List Node)} {condition : Node}
      {before : List Node} {outer : List (Block × List Node)} :
      builder.outer = (.chain span opened branches condition false, before) :: outer →
      head.name = "else" →
      Adds source builder head
        ⟨[], (.chain span (head.span source) ((condition, builder.siblings.reverse) :: branches)
          (.literal (head.span source) (.truth true)) true, before) :: outer⟩
  /-- An export with a value. -/
  | exported {span place : Span} {path name : String} {exports : List (String × List Node)}
      {value : Node} {before : List Node} {outer : List (Block × List Node)} :
      builder.outer = (.extend span path exports, before) :: outer → head.name = "export" →
      head.Reads source [.literal place (.text name), value] →
      Keyed.find? name exports = none →
      Adds source builder head
        ⟨[], (.extend span path (Keyed.insert name [value] exports), before) :: outer⟩
  /-- An export with a body. -/
  | exporting {span place : Span} {path name : String} {exports : List (String × List Node)}
      {before : List Node} {outer : List (Block × List Node)} :
      builder.outer = (.extend span path exports, before) :: outer → head.name = "export" →
      head.Reads source [.literal place (.text name)] →
      Adds source builder head
        ⟨[], (.exporting span path exports name (head.span source), before) :: outer⟩
  /-- The end of a block, which makes a node. -/
  | close {block : Block} {before : List Node} {outer : List (Block × List Node)} {node : Node} :
      builder.outer = (block, before) :: outer → head.name = block.closer →
      block.node? builder.siblings.reverse = some node →
      Adds source builder head ⟨node :: before, outer⟩
  /-- The end of an export, which declares its body. -/
  | closeExport {span opened : Span} {path name : String} {exports : List (String × List Node)}
      {before : List Node} {outer : List (Block × List Node)} :
      builder.outer = (.exporting span path exports name opened, before) :: outer →
      head.name = "endexport" → Keyed.find? name exports = none →
      Adds source builder head
        ⟨[], (.extend span path (Keyed.insert name builder.siblings.reverse exports), before) ::
          outer⟩

theorem declare_eq_ok {span opened : Span} {path name : String}
    {exports : List (String × List Node)} {value : List Node} {block : Block}
    (h : declare span path exports name value opened = .ok block) :
    Keyed.find? name exports = none ∧
      block = .extend span path (Keyed.insert name value exports) := by
  unfold declare at h
  split at h
  · cases h
  · rename_i hnone
    cases h
    exact ⟨hnone, rfl⟩

theorem close_cases {block : Block} {before : List Node} {outer : List (Block × List Node)}
    (houter : builder.outer = (block, before) :: outer) (hname : head.name = block.closer)
    (h : close block builder.siblings before outer = .ok next) :
    Adds source builder head next := by
  cases block with
  | tag | loop | chain | extend =>
    cases h
    exact .close houter hname rfl
  | exporting span path exports name opened =>
    unfold close at h
    dsimp only at h
    split at h
    · cases h
    · rename_i block hdeclare
      obtain ⟨hnone, rfl⟩ := declare_eq_ok hdeclare
      cases h
      exact .closeExport houter hname hnone

theorem addExport_cases {span : Span} {path : String} {exports : List (String × List Node)}
    {before : List Node} {outer : List (Block × List Node)}
    (houter : builder.outer = (.extend span path exports, before) :: outer)
    (h : addExport source head span path exports before outer = .ok next) :
    Adds source builder head next := by
  unfold addExport at h
  by_cases hname : head.name = "export"
  · rw [if_pos hname] at h
    obtain ⟨⟨name, value⟩, hexport, h⟩ := except_bind_eq_ok h
    obtain ⟨place, ⟨node, rfl, -, hread⟩ | ⟨rfl, -, hread⟩⟩ := Head.interpretExport_cases hexport
    · obtain ⟨block, hdeclare, h⟩ := except_bind_eq_ok h
      obtain ⟨hnone, rfl⟩ := declare_eq_ok hdeclare
      cases h
      exact .exported houter hname hread hnone
    · cases h
      exact .exporting houter hname hread
  · rw [if_neg hname] at h
    cases h

theorem addOther_cases (h : builder.addOther source head = .ok next) :
    Adds source builder head next := by
  have hstart (h : (do .ok (builder.start (← head.interpret source))) = Except.ok next) :
      Adds source builder head next := by
    obtain ⟨opening, hopening, h⟩ := except_bind_eq_ok h
    cases h
    exact .start (Head.interpret_cases hopening)
  unfold addOther at h
  split at h
  · rename_i houter
    exact addExport_cases houter h
  · rename_i houter
    dsimp only at h
    by_cases hname : head.name = "elseif"
    · rw [if_pos hname] at h
      obtain ⟨condition, hcondition, h⟩ := except_bind_eq_ok h
      cases h
      exact .elseif houter hname (Head.single_eq_ok hcondition)
    · rw [if_neg hname] at h
      by_cases hname : head.name = "else"
      · rw [if_pos hname] at h
        cases h
        exact .otherwise houter hname
      · rw [if_neg hname] at h
        exact hstart h
  · exact hstart h

/-- **A builder takes in a head by one of the rules.** -/
theorem addHead_cases (h : builder.addHead source head = .ok next) :
    Adds source builder head next := by
  unfold addHead at h
  split at h
  · rename_i houter
    split at h
    · rename_i hname
      exact close_cases houter hname h
    · exact addOther_cases h
  · exact addOther_cases h

/-- A template ends where no block is open. -/
theorem finish_eq_ok {nodes : List Node} (h : builder.finish = .ok nodes) :
    builder.outer = [] ∧ builder.siblings.reverse = nodes := by
  unfold finish at h
  split at h
  · rename_i houter
    exact ⟨houter, Except.ok.inj h⟩
  · cases h

end Builder

end Stencil
