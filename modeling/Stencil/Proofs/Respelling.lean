/-
Templates under other spellings of their paths.

A template that can be composed is composed in the same way under every spelling
of its path, but for the labels in its spans.

* **`not_reaches_key`** — nothing that such a template extends, directly or
  through others, is the template itself under any spelling;
* **`composePath_respell`** — the composition under another spelling.

## Design notes

Loading goes by components, and the test for circles by spellings.  So the
origin of a chain could be found again under another spelling, and the test
would not notice.  But then it would be found once more from there, under the
same spelling, and now the test would fail.
-/
import Stencil.Proofs.Comparison
import Stencil.Proofs.Nesting

namespace Stencil

/-- The spelling `b` in place of `a`. -/
def Path.respell (a b path : String) : String := if path = a then b else path

theorem Path.respell_self (a b : String) : Path.respell a b a = b := if_pos rfl

theorem Path.respell_of_ne {a b path : String} (h : path ≠ a) : Path.respell a b path = path :=
  if_neg h

/-- The functions that put one spelling of a path in place of another. -/
def Path.IsRespelling (f : String → String) : Prop :=
  ∃ a b, Path.key a = Path.key b ∧ f = Path.respell a b

theorem Path.isRespelling_id : Path.IsRespelling id := by
  refine ⟨"", "", rfl, funext fun path => ?_⟩
  by_cases h : path = ""
  · rw [h, Path.respell_self, id]
  · rw [Path.respell_of_ne h, id]

/-! ### Loading -/

variable {library : Library} {rule : PathRule}

theorem Library.find?_congr {a b : String} (h : Path.key a = Path.key b) :
    library.find? a = library.find? b := by
  simp only [Library.find?, Path.same, h]

/-- Without faults, loading goes by the components of a path. -/
theorem Library.load_congr (hfaults : library.faults = []) {a b : String}
    (h : Path.key a = Path.key b) : library.load a = library.load b := by
  rw [Library.load, Library.load, hfaults, Keyed.find?, Keyed.find?, Library.find?_congr h]

/-! ### Circles -/

/-- Nothing that a template reaches has the components of its own path, if the
template can be composed. -/
theorem not_reaches_key {origin path : String} {bytes : ByteArray} {nodes result : List Node}
    {depth : Nat} {chain : List String} {scope : Scope}
    (hload : library.load origin = .ok bytes) (hparse : parseBytes bytes origin = .ok nodes)
    (h : (composeAll (visitWithin (library.sources rule) depth chain) scope nodes).result =
      .ok result)
    (hreach : (library.sources rule).Reaches nodes path) : Path.key path ≠ Path.key origin := by
  intro hkey
  obtain ⟨-, -, -, -, bytes', -, -, -, hload', -, -⟩ := exists_compose_of_reaches hreach h
  -- The same bytes are found under both paths.
  have hfind : library.find? path = some bytes' := Library.find?_of_load hload'
  rw [Library.find?_congr hkey, Library.find?_of_load hload] at hfind
  obtain rfl := Option.some.inj hfind
  -- The template under the other spelling extends the same templates.
  obtain ⟨nodes', hparse', hnames⟩ : ∃ nodes', parseBytes bytes path = .ok nodes' ∧
      ∀ name, name ∈ Node.extendedInAll nodes' ↔ name ∈ Node.extendedInAll nodes :=
    mem_extendedInAll_parseBytes hparse
  exact not_reaches_self hreach h hload' hparse' (hreach.congr fun name => (hnames name).2)

/-! ### Compositions from two origins -/

variable {f : String → String}

theorem importedNodes_rel {P : Node → Prop} {scope₁ scope₂ : Scope}
    (hscope : ScopeCarried f P scope₁ scope₂) :
    (Comparison.success f).RelatesImports (fun _ => True) scope₁ scope₂ := by
  intro span name nodes hnodes
  have hfind := importedNodes_result_eq_ok_iff.1 hnodes
  refine ⟨nodes.map (Node.relabel f), importedNodes_result_eq_ok_iff.2 ?_, rfl,
    fun _ _ => trivial⟩
  rw [hscope.1, Node.relabelExports_eq_map, Keyed.find?_map, hfind, Option.map_some]

/-- Visits from two origins, for nodes that lead to neither of them. -/
theorem composeAll_respell {sources : Sources} {a b : String}
    (hparse : ∀ bytes label, sources.parse bytes (f label) =
      relabelResult f (List.map (Node.relabel f)) (sources.parse bytes label))
    (hf : ∀ path, path ≠ a → f path = path) {depth : Nat} {chain : List String}
    {scope₁ scope₂ : Scope} (hscope : ScopeCarried f (fun _ => True) scope₁ scope₂)
    {nodes : List Node}
    (hreach : ∀ path, sources.Reaches nodes path → path ≠ a ∧ path ≠ b) :
    (Comparison.success f).Rel (AllCarried f fun _ => True)
      (composeAll (visitWithin sources depth (a :: chain)) scope₁ nodes)
      (composeAll (visitWithin sources depth (b :: chain)) scope₂
        (nodes.map (Node.relabel f))) := by
  induction depth using Nat.strongRecOn generalizing chain scope₁ scope₂ nodes with
  | _ depth ih =>
    refine (Comparison.success f).composeAll_rel fun node hnode => ?_
    refine (Comparison.success f).composeNode_rel (fun _ _ _ => trivial) (importedNodes_rel hscope)
      node ?_
    intro span name exports hoccurs declared₁ declared₂ hdeclared result hresult
    obtain ⟨depth, bytes, loaded, rfl, hchain, hload, hloaded, hresult⟩ :=
      visitWithin_result_eq_ok_iff.1 hresult
    have hname : name ∈ Node.extendedInAll nodes :=
      (Node.mem_extendedInAll_iff_occurs nodes).2 ⟨span, exports, node, hnode, hoccurs⟩
    obtain ⟨ha, hb⟩ := hreach _ (.here hname)
    -- What the loaded template leads to, the nodes lead to as well.
    have hreach' : ∀ path, sources.Reaches loaded path → path ≠ a ∧ path ≠ b :=
      fun path hpath => hreach path (.beyond hname hload hloaded hpath)
    obtain ⟨result', hresult', hcarried⟩ :=
      ih depth (Nat.lt_succ_self depth) (hdeclared.append hscope) hreach' result hresult
    have hloaded' : sources.parse bytes (sources.rule.normalize name) =
        .ok (loaded.map (Node.relabel f)) := by
      have hlabel := hparse bytes (sources.rule.normalize name)
      rw [hf _ ha] at hlabel
      rw [hlabel, hloaded, relabelResult]
    have hchain' : sources.rule.normalize name ∉ b :: chain := by
      rw [List.mem_cons, not_or] at hchain ⊢
      exact ⟨hb, hchain.2⟩
    exact ⟨result', visitWithin_result_eq_ok_iff.2
      ⟨depth, bytes, _, rfl, hchain', hload, hloaded', hresult'⟩, hcarried⟩

/-- **A template that can be composed is composed in the same way under another
spelling** of its path, but for the spelling in the spans. -/
theorem composePath_respell (hfaults : library.faults = []) {a b : String}
    (hkey : Path.key a = Path.key b) {result : List Node}
    (h : (composePath (library.sources rule) (library.depth rule) a).result = .ok result) :
    (composePath (library.sources rule) (library.depth rule) b).result =
      .ok (result.map (Node.relabel (Path.respell a b))) := by
  simp only [composePath, Traced.result_bind_eq_ok_iff, Sources.fetch_result_eq_ok_iff,
    Sources.read_result_eq_ok_iff] at h ⊢
  obtain ⟨bytes, hload, nodes, hparse, h⟩ := h
  have hload' : library.load b = .ok bytes := by rw [← Library.load_congr hfaults hkey]; exact hload
  have hparse' : parseBytes bytes b =
      .ok (nodes.map (Node.relabel (Path.respell a b))) := by
    have hlabel := parseBytes_relabel (f := Path.respell a b) bytes a
    rw [Path.respell_self] at hlabel
    exact hlabel.trans (by rw [show parseBytes bytes a = .ok nodes from hparse]; rfl)
  refine ⟨bytes, hload', _, hparse', ?_⟩
  -- The two limits differ, so both compositions are taken to a common one.
  obtain ⟨depth, hdepth, hdepth'⟩ : ∃ depth, library.depth rule nodes ≤ depth ∧
      library.depth rule (nodes.map (Node.relabel (Path.respell a b))) ≤ depth :=
    ⟨max _ _, Nat.le_max_left _ _, Nat.le_max_right _ _⟩
  rw [← (compose_depth library rule (some a) nodes hdepth).1] at h
  rw [← (compose_depth library rule (some b) _ hdepth').1]
  have hreach : ∀ path, (library.sources rule).Reaches nodes path → path ≠ a ∧ path ≠ b := by
    intro path hpath
    have hne := not_reaches_key hload hparse h hpath
    constructor
    · rintro rfl
      exact hne rfl
    · rintro rfl
      exact hne hkey.symm
  obtain ⟨result', hresult', rfl, -⟩ := composeAll_respell parseBytes_relabel
    (fun path => Path.respell_of_ne) ⟨rfl, fun _ _ => trivial⟩ hreach result h
  exact hresult'

end Stencil
