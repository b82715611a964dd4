/-
Nodes under other labels.

A span names the source from which it was read.  `relabel f` replaces the name
by its image under `f`, in one span (`Span.relabel`), in all spans of a node
(`Node.relabel`) and in the span of an error (`ParseError.relabel`), and leaves
everything else as it is.

* **`Node.relabel_id`** — names that stay the same leave a node as it is;
* **`Node.children_relabel`** — it goes through a node to its children;
* **`Node.extended_relabel`** — it keeps the names of extended templates.
-/
import Mathlib.Logic.Basic
import Stencil.Proofs.Occurrence

namespace Stencil

/-- A span with another name of its source. -/
def Span.relabel (f : String → String) (span : Span) : Span := { span with file := f span.file }

@[simp] theorem Span.relabel_id (span : Span) : span.relabel id = span := rfl

@[simp] theorem Span.start_relabel (f : String → String) (span : Span) :
    (span.relabel f).start = span.start := rfl

@[simp] theorem Span.stop_relabel (f : String → String) (span : Span) :
    (span.relabel f).stop = span.stop := rfl

/-- A parse error whose place has another name of its source. -/
def ParseError.relabel (f : String → String) (error : ParseError) : ParseError :=
  { error with span := error.span.relabel f }

/-- A source of another name. -/
def Source.relabel (f : String → String) (source : Source) : Source :=
  { source with label := f source.label }

@[simp] theorem Source.span_relabel (f : String → String) (source : Source) (start stop : Nat) :
    (source.relabel f).span start stop = (source.span start stop).relabel f := rfl

namespace Node

mutual

/-- A node whose spans have other names of their sources. -/
def relabel (f : String → String) : Node → Node
  | raw span text => .raw (span.relabel f) text
  | tag span name parameters none => .tag (span.relabel f) name (relabelAll f parameters) none
  | tag span name parameters (some body) =>
    .tag (span.relabel f) name (relabelAll f parameters) (some (relabelAll f body))
  | embed span target => .embed (span.relabel f) (target.relabel f)
  | imported span name => .imported (span.relabel f) name
  | .extend span name exports => .extend (span.relabel f) name (relabelExports f exports)
  | conditional span branches => .conditional (span.relabel f) (relabelBranches f branches)
  | path span keys => .path (span.relabel f) keys
  | literal span value => .literal (span.relabel f) value
  | joined span parts => .joined (span.relabel f) (relabelAll f parts)
  | loop span key data body =>
    .loop (span.relabel f) (key.relabel f) (data.relabel f) (relabelAll f body)
  | binary span op left right => .binary (span.relabel f) op (left.relabel f) (right.relabel f)
  | signed span op operand => .signed (span.relabel f) op (operand.relabel f)
  | suffixed span op operand => .suffixed (span.relabel f) op (operand.relabel f)
  | host span node => .host (span.relabel f) node

/-- `relabel` for the nodes of a sequence. -/
def relabelAll (f : String → String) : List Node → List Node
  | [] => []
  | node :: nodes => node.relabel f :: relabelAll f nodes

/-- `relabel` for the branches of a chain. -/
def relabelBranches (f : String → String) :
    List (Node × List Node) → List (Node × List Node)
  | [] => []
  | (condition, body) :: branches =>
    (condition.relabel f, relabelAll f body) :: relabelBranches f branches

/-- `relabel` for the values of exports. -/
def relabelExports (f : String → String) :
    List (String × List Node) → List (String × List Node)
  | [] => []
  | (name, value) :: exports => (name, relabelAll f value) :: relabelExports f exports

end

@[simp] theorem relabelAll_eq_map (f : String → String) (nodes : List Node) :
    relabelAll f nodes = nodes.map (relabel f) := by
  induction nodes with
  | nil => rfl
  | cons node nodes ih => rw [relabelAll, ih, List.map_cons]

@[simp] theorem relabelBranches_eq_map (f : String → String)
    (branches : List (Node × List Node)) :
    relabelBranches f branches =
      branches.map fun branch => (branch.1.relabel f, branch.2.map (relabel f)) := by
  induction branches with
  | nil => rfl
  | cons branch branches ih =>
    obtain ⟨condition, body⟩ := branch
    rw [relabelBranches, ih, List.map_cons, relabelAll_eq_map]

@[simp] theorem relabelExports_eq_map (f : String → String)
    (exports : List (String × List Node)) :
    relabelExports f exports = exports.map fun entry => (entry.1, entry.2.map (relabel f)) := by
  induction exports with
  | nil => rfl
  | cons entry exports ih =>
    obtain ⟨name, value⟩ := entry
    rw [relabelExports, ih, List.map_cons, relabelAll_eq_map]

@[simp] theorem span_relabel (f : String → String) (node : Node) :
    (node.relabel f).span = node.span.relabel f := by
  cases node with
  | tag span name parameters body => cases body <;> rfl
  | _ => rfl

@[simp] theorem describe_relabel (f : String → String) (node : Node) :
    (node.relabel f).describe = node.describe := by
  cases node with
  | tag span name parameters body => cases body <;> rfl
  | _ => rfl

theorem relabel_tag (f : String → String) (span : Span) (name : String) (parameters : List Node)
    (body : Option (List Node)) :
    (tag span name parameters body).relabel f =
      .tag (span.relabel f) name (parameters.map (relabel f))
        (body.map (List.map (relabel f))) := by
  cases body <;> simp [relabel]

/-- The children of a relabelled node are those of the node, relabelled. -/
theorem children_relabel (f : String → String) (node : Node) :
    (node.relabel f).children = node.children.map (relabel f) := by
  cases node with
  | tag span name parameters body => cases body <;> simp [relabel_tag, children]
  | _ => simp [relabel, children, List.flatMap_map, List.map_flatMap]

theorem map_branches_congr {g h : Node → Node} {branches : List (Node × List Node)}
    (hgh : ∀ node ∈ branches.flatMap fun branch => branch.1 :: branch.2, g node = h node) :
    (branches.map fun branch => (g branch.1, branch.2.map g)) =
      branches.map fun branch => (h branch.1, branch.2.map h) := by
  refine List.map_congr_left fun branch hbranch => ?_
  have hmem : ∀ node ∈ branch.1 :: branch.2, g node = h node := fun node hnode =>
    hgh node (List.mem_flatMap.2 ⟨branch, hbranch, hnode⟩)
  rw [hmem branch.1 (List.mem_cons_self ..),
    List.map_congr_left fun node hnode => hmem node (List.mem_cons_of_mem _ hnode)]

theorem map_exports_congr {g h : Node → Node} {exports : List (String × List Node)}
    (hgh : ∀ node ∈ exports.flatMap Prod.snd, g node = h node) :
    (exports.map fun entry => (entry.1, entry.2.map g)) =
      exports.map fun entry => (entry.1, entry.2.map h) := by
  refine List.map_congr_left fun entry hentry => ?_
  rw [List.map_congr_left fun node hnode => hgh node (List.mem_flatMap.2 ⟨entry, hentry, hnode⟩)]

theorem relabel_id (node : Node) : node.relabel id = node := by
  induction node using children_induction with
  | h node ih =>
    have hmap : ∀ nodes : List Node, (∀ child ∈ nodes, child ∈ node.children) →
        nodes.map (relabel id) = nodes := fun nodes h =>
      (List.map_congr_left fun child hchild => ih child (h child hchild)).trans (List.map_id' _)
    cases node with
    | tag span name parameters body =>
      rw [relabel_tag, hmap parameters fun child hchild => List.mem_append_left _ hchild]
      cases body with
      | none => rfl
      | some nodes =>
        rw [Option.map_some, hmap nodes fun child hchild => List.mem_append_right _ hchild,
          Span.relabel_id]
    | conditional span branches =>
      rw [relabel, relabelBranches_eq_map, map_branches_congr (h := id) ih]
      simp
    | extend span name exports =>
      rw [relabel, relabelExports_eq_map, map_exports_congr (h := id) ih]
      simp
    | joined span parts =>
      rw [relabel, relabelAll_eq_map, hmap parts fun child hchild => hchild, Span.relabel_id]
    | loop span key data body =>
      rw [relabel, relabelAll_eq_map, ih key (by simp [children]), ih data (by simp [children]),
        hmap body fun child hchild => by simp [children, hchild], Span.relabel_id]
    | _ => simp_all [relabel, children]

@[simp] theorem map_relabel_id (nodes : List Node) : nodes.map (relabel id) = nodes :=
  (List.map_congr_left fun node _ => relabel_id node).trans (List.map_id' _)

@[simp] theorem relabelExports_id (exports : List (String × List Node)) :
    relabelExports id exports = exports := by
  simp

/-- Relabelling keeps the names of the templates that a node extends. -/
theorem extended_relabel (f : String → String) (node : Node) {name : String} :
    name ∈ (node.relabel f).extended ↔ name ∈ node.extended := by
  induction node using children_induction with
  | h node ih =>
    rw [mem_extended_iff, mem_extended_iff node, children_relabel]
    have hself : (∃ span exports, node.relabel f = .extend span name exports) ↔
        ∃ span exports, node = .extend span name exports := by
      cases node with
      | tag span key parameters body => simp [relabel_tag]
      | _ => simp [relabel]
    have hchildren : (∃ child ∈ node.children.map (relabel f), name ∈ child.extended) ↔
        ∃ child ∈ node.children, name ∈ child.extended := by
      simp only [List.mem_map, exists_exists_and_eq_and]
      exact exists_congr fun child => and_congr_right fun hchild => ih child hchild
    rw [hself, hchildren]

theorem extendedInAll_map_relabel (f : String → String) (nodes : List Node) {name : String} :
    name ∈ extendedInAll (nodes.map (relabel f)) ↔ name ∈ extendedInAll nodes := by
  simp only [mem_extendedInAll_iff, List.mem_map, exists_exists_and_eq_and, extended_relabel]

end Node

end Stencil
