/-
Following extends.

A composition that succeeds has composed every child of every node, and so has
visited every extend that occurs in it, at any depth and in templates beyond.

* **`visitWithin_result_eq_ok_iff`** — when visiting a template succeeds;
* **`exists_visit_of_compose`** — every extend that occurs has been visited;
* **`Sources.Reaches`** — a path that extends lead to from some nodes;
* **`exists_compose_of_reaches`**, **`not_reaches_self`** — a composition that
  succeeds has composed what it reaches, and nothing that it reaches leads back
  to itself.
-/
import Stencil.Proofs.Relabelling

namespace Stencil

variable {sources : Sources} {visit : Visit} {scope : Scope}

theorem Traced.result_bind_eq_ok_iff {α β : Type} {x : Traced α} {g : α → Traced β} {b : β} :
    (x >>= g).result = .ok b ↔ ∃ a, x.result = .ok a ∧ (g a).result = .ok b :=
  Traced.bind_result_eq_ok_iff

theorem Sources.fetch_result_eq_ok_iff {path : String} {span : Option Span} {bytes : ByteArray} :
    (sources.fetch path span).result = .ok bytes ↔ sources.load path = .ok bytes := by
  unfold Sources.fetch
  split <;> simp_all

theorem Sources.read_result_eq_ok_iff {bytes : ByteArray} {label : String} {nodes : List Node} :
    (sources.read bytes label).result = .ok nodes ↔ sources.parse bytes label = .ok nodes := by
  unfold Sources.read
  cases sources.parse bytes label with
  | error e => exact ⟨nofun, nofun⟩
  | ok found =>
    constructor
    · intro h
      rw [Except.ok.inj h]
    · intro h
      rw [Except.ok.inj h]
      rfl

/-- A template that cannot be loaded is missing or cannot be read. -/
theorem Sources.fetch_result_error {path : String} {span : Option Span} {error : ComposeError}
    (h : (sources.fetch path span).result = .error error) :
    error = .fileNotFound path span ∨ ∃ message, error = .unreadable path message := by
  unfold Sources.fetch at h
  split at h
  · cases h
  · cases h
    exact .inl rfl
  · cases h
    exact .inr ⟨_, rfl⟩

/-- Bytes that are no template have a parse error. -/
theorem Sources.read_result_error {bytes : ByteArray} {label : String} {error : ComposeError}
    (h : (sources.read bytes label).result = .error error) :
    ∃ cause, error = .parse cause := by
  unfold Sources.read at h
  cases hparse : sources.parse bytes label with
  | error cause =>
    rw [hparse] at h
    cases h
    exact ⟨cause, rfl⟩
  | ok nodes =>
    rw [hparse] at h
    cases h

theorem importedNodes_result_eq_ok_iff {span : Span} {name : String} {nodes : List Node} :
    (importedNodes scope span name).result = .ok nodes ↔ Keyed.find? name scope = some nodes := by
  unfold importedNodes
  cases Keyed.find? name scope with
  | none => exact ⟨nofun, nofun⟩
  | some value =>
    constructor
    · intro h
      rw [Except.ok.inj h]
    · intro h
      rw [Option.some.inj h]
      rfl

/-- Visiting a template succeeds exactly if it is not being composed already, its
bytes can be loaded and parsed, and its nodes can be composed. -/
theorem visitWithin_result_eq_ok_iff {limit : Nat} {chain : List String} {span : Span}
    {name : String} {nodes : List Node} :
    (visitWithin sources limit chain span name scope).result = .ok nodes ↔
      ∃ depth bytes loaded, limit = depth + 1 ∧ sources.rule.normalize name ∉ chain ∧
        sources.load (sources.rule.normalize name) = .ok bytes ∧
        sources.parse bytes (sources.rule.normalize name) = .ok loaded ∧
        (composeAll (visitWithin sources depth (chain ++ [sources.rule.normalize name])) scope
          loaded).result = .ok nodes := by
  cases limit with
  | zero => simp [visitWithin, Traced.fail]
  | succ depth =>
    rw [visitWithin]
    by_cases hchain : sources.rule.normalize name ∈ chain
    · simp [hchain, Traced.fail]
    · simp only [hchain, if_false, Traced.result_bind_eq_ok_iff, Sources.fetch_result_eq_ok_iff,
        Sources.read_result_eq_ok_iff, not_false_eq_true, true_and]
      constructor
      · rintro ⟨bytes, hload, loaded, hparse, h⟩
        exact ⟨depth, bytes, loaded, rfl, hload, hparse, h⟩
      · rintro ⟨_, bytes, loaded, ⟨⟩, hload, hparse, h⟩
        exact ⟨bytes, hload, loaded, hparse, h⟩

/-! ### What a composition has composed -/

/-- A node whose composition succeeds. -/
def Composes (visit : Visit) (scope : Scope) (node : Node) : Prop :=
  ∃ nodes, (composeNode visit scope node).result = .ok nodes

theorem Composes.of_single {node : Node} {α : Type} {g : Node → Traced α} {a : α}
    (h : (composeNode visit scope node >>= fun nodes => collapse node.span nodes >>= g).result =
      .ok a) : Composes visit scope node ∧ ∃ single, (g single).result = .ok a := by
  obtain ⟨nodes, hnodes, h⟩ := Traced.result_bind_eq_ok_iff.1 h
  obtain ⟨single, -, h⟩ := Traced.result_bind_eq_ok_iff.1 h
  exact ⟨⟨nodes, hnodes⟩, single, h⟩

theorem Composes.of_composeAll {nodes result : List Node}
    (h : (composeAll visit scope nodes).result = .ok result) :
    ∀ node ∈ nodes, Composes visit scope node := by
  induction nodes generalizing result with
  | nil => simp
  | cons node nodes ih =>
    rw [composeAll] at h
    obtain ⟨first, hfirst, h⟩ := Traced.result_bind_eq_ok_iff.1 h
    obtain ⟨rest, hrest, -⟩ := Traced.result_bind_eq_ok_iff.1 h
    rw [List.forall_mem_cons]
    exact ⟨⟨first, hfirst⟩, ih hrest⟩

theorem Composes.of_composeEach {nodes result : List Node}
    (h : (composeEach visit scope nodes).result = .ok result) :
    ∀ node ∈ nodes, Composes visit scope node := by
  induction nodes generalizing result with
  | nil => simp
  | cons node nodes ih =>
    rw [composeEach] at h
    obtain ⟨hnode, first, h⟩ := Composes.of_single h
    obtain ⟨rest, hrest, -⟩ := Traced.result_bind_eq_ok_iff.1 h
    rw [List.forall_mem_cons]
    exact ⟨hnode, ih hrest⟩

theorem Composes.of_composeBranches {branches result : List (Node × List Node)}
    (h : (composeBranches visit scope branches).result = .ok result) :
    ∀ node ∈ branches.flatMap fun branch => branch.1 :: branch.2, Composes visit scope node := by
  induction branches generalizing result with
  | nil => simp
  | cons branch branches ih =>
    obtain ⟨condition, body⟩ := branch
    rw [composeBranches] at h
    obtain ⟨hcondition, first, h⟩ := Composes.of_single h
    obtain ⟨nodes, hbody, h⟩ := Traced.result_bind_eq_ok_iff.1 h
    obtain ⟨rest, hrest, -⟩ := Traced.result_bind_eq_ok_iff.1 h
    rw [List.flatMap_cons, List.forall_mem_append, List.forall_mem_cons]
    exact ⟨⟨hcondition, Composes.of_composeAll hbody⟩, ih hrest⟩

theorem Composes.of_composeExports {exports : List (String × List Node)} {declared : Scope}
    (h : (composeExports visit scope exports).result = .ok declared) :
    ∀ node ∈ exports.flatMap Prod.snd, Composes visit scope node := by
  induction exports generalizing declared with
  | nil => simp
  | cons entry exports ih =>
    obtain ⟨name, value⟩ := entry
    rw [composeExports] at h
    obtain ⟨nodes, hvalue, h⟩ := Traced.result_bind_eq_ok_iff.1 h
    obtain ⟨rest, hrest, -⟩ := Traced.result_bind_eq_ok_iff.1 h
    rw [List.flatMap_cons, List.forall_mem_append]
    exact ⟨Composes.of_composeAll hvalue, ih hrest⟩

/-- A composition that succeeds composes the children of a node. -/
theorem Composes.children {node : Node} (h : Composes visit scope node) :
    ∀ child ∈ node.children, Composes visit scope child := by
  obtain ⟨nodes, h⟩ := h
  cases node with
  | raw | path | literal | host | imported => simp [Node.children]
  | extend span name exports =>
    obtain ⟨declared, hdeclared, -⟩ := Traced.result_bind_eq_ok_iff.1 h
    exact Composes.of_composeExports hdeclared
  | tag span name parameters body =>
    cases body with
    | none =>
      obtain ⟨_, hparameters, -⟩ := Traced.result_bind_eq_ok_iff.1 h
      simpa [Node.children] using Composes.of_composeEach hparameters
    | some body =>
      obtain ⟨_, hparameters, h⟩ := Traced.result_bind_eq_ok_iff.1 h
      obtain ⟨_, hbody, -⟩ := Traced.result_bind_eq_ok_iff.1 h
      rw [Node.children, List.forall_mem_append]
      exact ⟨Composes.of_composeEach hparameters, Composes.of_composeAll hbody⟩
  | conditional span branches =>
    obtain ⟨_, hbranches, -⟩ := Traced.result_bind_eq_ok_iff.1 h
    exact Composes.of_composeBranches hbranches
  | joined span parts =>
    obtain ⟨_, hparts, -⟩ := Traced.result_bind_eq_ok_iff.1 h
    exact Composes.of_composeAll hparts
  | loop span key data body =>
    obtain ⟨hkey, _, h⟩ := Composes.of_single h
    obtain ⟨hdata, _, h⟩ := Composes.of_single h
    obtain ⟨_, hbody, -⟩ := Traced.result_bind_eq_ok_iff.1 h
    rw [Node.children, List.forall_mem_cons, List.forall_mem_cons]
    exact ⟨hkey, hdata, Composes.of_composeAll hbody⟩
  | binary span op left right =>
    obtain ⟨hleft, _, h⟩ := Composes.of_single h
    obtain ⟨hright, _, -⟩ := Composes.of_single h
    simpa [Node.children] using ⟨hleft, hright⟩
  | embed | signed | suffixed =>
    obtain ⟨hsingle, -⟩ := Composes.of_single h
    simpa [Node.children] using hsingle

/-- A composition that succeeds has visited the extends that occur in a node. -/
theorem Composes.exists_visit {span : Span} {name : String} {exports : List (String × List Node)}
    {node : Node} (hoccurs : Node.Occurs (.extend span name exports) node)
    (h : Composes visit scope node) :
    ∃ inner nodes, (visit span name inner).result = .ok nodes := by
  induction hoccurs with
  | self =>
    obtain ⟨nodes, h⟩ := h
    obtain ⟨declared, -, h⟩ := Traced.result_bind_eq_ok_iff.1 h
    exact ⟨declared ++ scope, nodes, h⟩
  | within hchild _ ih => exact ih (h.children _ hchild)

theorem exists_visit_of_compose {nodes result : List Node} {name : String}
    (h : (composeAll visit scope nodes).result = .ok result)
    (hname : name ∈ Node.extendedInAll nodes) :
    ∃ span inner nodes, (visit span name inner).result = .ok nodes := by
  obtain ⟨span, exports, top, htop, hoccurs⟩ := (Node.mem_extendedInAll_iff_occurs nodes).1 hname
  exact ⟨span, (Composes.of_composeAll h top htop).exists_visit hoccurs⟩

/-! ### Templates that are reached -/

/-- A path to which extends lead from some nodes. -/
inductive Sources.Reaches (sources : Sources) : List Node → String → Prop
  | here {nodes : List Node} {name : String} : name ∈ Node.extendedInAll nodes →
      Reaches sources nodes (sources.rule.normalize name)
  | beyond {nodes loaded : List Node} {name path : String} {bytes : ByteArray} :
      name ∈ Node.extendedInAll nodes → sources.load (sources.rule.normalize name) = .ok bytes →
      sources.parse bytes (sources.rule.normalize name) = .ok loaded →
      Reaches sources loaded path → Reaches sources nodes path

/-- What is reached depends on the names of the extended templates alone. -/
theorem Sources.Reaches.congr {nodes nodes' : List Node} {path : String}
    (hnames : ∀ name, name ∈ Node.extendedInAll nodes → name ∈ Node.extendedInAll nodes')
    (h : sources.Reaches nodes path) : sources.Reaches nodes' path := by
  cases h with
  | here hname => exact .here (hnames _ hname)
  | beyond hname hload hparse h => exact .beyond (hnames _ hname) hload hparse h

/-- A composition that succeeds has composed every template that it reaches, and
none of them was being composed before. -/
theorem exists_compose_of_reaches {nodes result : List Node} {path : String} {depth : Nat}
    {chain : List String} (hreach : sources.Reaches nodes path)
    (h : (composeAll (visitWithin sources depth chain) scope nodes).result = .ok result) :
    path ∉ chain ∧ ∃ depth' chain' inner bytes loaded result', path ∈ chain' ∧
      sources.load path = .ok bytes ∧ sources.parse bytes path = .ok loaded ∧
      (composeAll (visitWithin sources depth' chain') inner loaded).result = .ok result' := by
  induction hreach generalizing depth chain scope result with
  | here hname =>
    obtain ⟨span, inner, result', hvisit⟩ := exists_visit_of_compose h hname
    obtain ⟨depth', bytes, loaded, -, hchain, hload, hparse, h⟩ :=
      visitWithin_result_eq_ok_iff.1 hvisit
    exact ⟨hchain, depth', _, inner, bytes, loaded, result',
      List.mem_append_right _ (List.mem_singleton_self _), hload, hparse, h⟩
  | beyond hname hload hparse _ ih =>
    obtain ⟨span, inner, result', hvisit⟩ := exists_visit_of_compose h hname
    obtain ⟨depth', bytes', loaded', -, -, hload', hparse', h⟩ :=
      visitWithin_result_eq_ok_iff.1 hvisit
    -- What is loaded under a path and parsed is the same each time.
    obtain rfl := Except.ok.inj (hload.symm.trans hload')
    obtain rfl := Except.ok.inj (hparse.symm.trans hparse')
    obtain ⟨hchain, hcomposed⟩ := ih h
    exact ⟨fun hmem => hchain (List.mem_append_left _ hmem), hcomposed⟩

/-- Nothing that is reached by a composition that succeeds reaches itself. -/
theorem not_reaches_self {nodes result loaded : List Node} {path : String} {bytes : ByteArray}
    {depth : Nat} {chain : List String} (hreach : sources.Reaches nodes path)
    (h : (composeAll (visitWithin sources depth chain) scope nodes).result = .ok result)
    (hload : sources.load path = .ok bytes) (hparse : sources.parse bytes path = .ok loaded) :
    ¬ sources.Reaches loaded path := by
  obtain ⟨-, depth', chain', inner, bytes', loaded', result', hpath, hload', hparse', h'⟩ :=
    exists_compose_of_reaches hreach h
  obtain rfl := Except.ok.inj (hload.symm.trans hload')
  obtain rfl := Except.ok.inj (hparse.symm.trans hparse')
  intro hself
  -- It was composed with its own path on the chain.
  exact (exists_compose_of_reaches hself h').1 hpath

end Stencil
