/-
How deep extends can be nested.

No path is on a chain twice, and each path on a chain but the first is there
because an extend names it.  So a chain ends when the paths run out, and a
composition with a larger limit does the same as one that just suffices.

* **`visitWithin_rel`** — two limits that leave room for the paths that are not
  on the chain give the same;
* **`compose_terminates`** — for a library, one more than the number of paths
  that its extends name is such a limit;
* **`compose_depth`** — `Library.depth` is one as well.

## Design notes

`Sources.Closed` says of a list of paths that extends do not lead out of it, and
this is all that the argument needs of the templates.  The chain is split in the
origin, which no extend has to name, and the paths that were visited since.
-/
import Mathlib.Data.List.Dedup
import Stencil.Proofs.Comparison
import Stencil.Proofs.Visit
import Stencil.Proofs.Relabelling.Document

namespace Stencil

/-! ### Paths that extends name -/

/-- A path that an extend names, at any depth in some nodes. -/
def PathRule.Names (rule : PathRule) (nodes : List Node) (path : String) : Prop :=
  ∃ span name exports, Node.OccursIn (.extend span name exports) nodes ∧
    rule.normalize name = path

theorem PathRule.names_iff {rule : PathRule} {nodes : List Node} {path : String} :
    rule.Names nodes path ↔ path ∈ (Node.extendedInAll nodes).map rule.normalize := by
  rw [List.mem_map]
  constructor
  · rintro ⟨span, name, exports, hoccurs, hpath⟩
    exact ⟨name, (Node.mem_extendedInAll_iff_occurs nodes).2 ⟨span, exports, hoccurs⟩, hpath⟩
  · rintro ⟨name, hname, hpath⟩
    obtain ⟨span, exports, hoccurs⟩ := (Node.mem_extendedInAll_iff_occurs nodes).1 hname
    exact ⟨span, name, exports, hoccurs, hpath⟩

/-- A list of paths from which extends lead to paths of the list only. -/
def Sources.Closed (sources : Sources) (paths : List String) : Prop :=
  ∀ path bytes nodes, sources.load path = .ok bytes → sources.parse bytes path = .ok nodes →
    ∀ next, sources.rule.Names nodes next → next ∈ paths

/-! ### Sufficient limits -/

variable {sources : Sources} {paths : List String}

/-- The errors of a composition that its limit does not stop. -/
def ComposeError.IsProper (error : ComposeError) : Prop := ∀ span, error ≠ .tooDeep span

/-- Two compositions do the same, and no limit stops them. -/
abbrev properAgreement : Comparison id :=
  Comparison.agreement ComposeError.IsProper fun _ _ h => ComposeError.noConfusion h

/-- A computation without a limit agrees with itself. -/
theorem properAgreement_refl {α : Type} {R : α → α → Prop} {x : Traced α}
    (herror : ∀ error, x.result = .error error → error.IsProper)
    (hok : ∀ a, x.result = .ok a → R a a) : properAgreement.Rel R x x := by
  obtain ⟨result, accesses⟩ := x
  cases result with
  | error error => exact ⟨rfl, rfl, herror error rfl⟩
  | ok a => exact ⟨rfl, hok a rfl⟩

/-- The same first step, which no limit can stop. -/
theorem properAgreement_bind_self {α β : Type} {S : β → β → Prop} {x : Traced α}
    {g h : α → Traced β} (herror : ∀ error, x.result = .error error → error.IsProper)
    (hgh : ∀ a, x.result = .ok a → properAgreement.Rel S (g a) (h a)) :
    properAgreement.Rel S (x >>= g) (x >>= h) := by
  have hx : properAgreement.Rel (fun a b => a = b ∧ x.result = .ok a) x x :=
    properAgreement_refl herror fun a ha => ⟨rfl, ha⟩
  refine properAgreement.bind_rel hx ?_
  rintro a _ ⟨rfl, ha⟩
  exact hgh a ha

theorem Sources.fetch_isProper {path : String} {span : Option Span} (error : ComposeError)
    (h : (sources.fetch path span).result = .error error) : error.IsProper := by
  rcases Sources.fetch_result_error h with rfl | ⟨message, rfl⟩
  · exact fun _ => ComposeError.noConfusion
  · exact fun _ => ComposeError.noConfusion

theorem Sources.read_isProper {bytes : ByteArray} {label : String} (error : ComposeError)
    (h : (sources.read bytes label).result = .error error) : error.IsProper := by
  obtain ⟨cause, rfl⟩ := Sources.read_result_error h
  exact fun _ => ComposeError.noConfusion

theorem importedNodes_isProper {scope : Scope} {span : Span} {name : String}
    (error : ComposeError) (h : (importedNodes scope span name).result = .error error) :
    error.IsProper := by
  intro _ herror
  subst herror
  unfold importedNodes at h
  split at h
  · cases h
  · cases h

/-- Visits that agree on some paths give compositions that agree, if the nodes
extend nothing else. -/
theorem composeAll_proper {visit₁ visit₂ : Visit} {scope : Scope} {nodes : List Node}
    (hnames : ∀ path, sources.rule.Names nodes path → path ∈ paths)
    (hvisit : ∀ span name inner, sources.rule.normalize name ∈ paths →
      properAgreement.Rel (AllCarried id fun _ => True) (visit₁ span name inner)
        (visit₂ span name inner)) :
    properAgreement.Rel (AllCarried id fun _ => True) (composeAll visit₁ scope nodes)
      (composeAll visit₂ scope nodes) := by
  refine properAgreement.composeAll_of_visits ?_ ?_
  · exact fun _ _ => properAgreement_refl importedNodes_isProper fun as _ => .refl as
  · intro span name exports hoccurs declared
    exact hvisit span name (declared ++ scope) (hnames _ ⟨span, name, exports, hoccurs, rfl⟩)

/-- Two limits that leave room for the paths that were not visited yet. -/
theorem visitWithin_rel (hclosed : sources.Closed paths) (origin : List String)
    {visited : List String} {limit limit' : Nat} (hvisited : visited.Nodup)
    (hsub : visited ⊆ paths) (hlimit : paths.length + 1 ≤ visited.length + limit)
    (hlimit' : paths.length + 1 ≤ visited.length + limit') (span : Span) (name : String)
    (scope : Scope) (hname : sources.rule.normalize name ∈ paths) :
    properAgreement.Rel (AllCarried id fun _ => True)
      (visitWithin sources limit (origin ++ visited) span name scope)
      (visitWithin sources limit' (origin ++ visited) span name scope) := by
  -- There are no more visited paths than paths, so neither limit is used up.
  have hlength := hvisited.length_le_of_subset hsub
  induction limit generalizing visited limit' span name scope with
  | zero => omega
  | succ depth ih =>
    obtain ⟨depth', rfl⟩ : ∃ n, limit' = n + 1 := ⟨limit' - 1, by omega⟩
    rw [visitWithin, visitWithin]
    generalize hpath : sources.rule.normalize name = path at hname
    by_cases hchain : path ∈ origin ++ visited
    · simp only [hchain, if_true]
      exact ⟨rfl, rfl, fun _ h => ComposeError.noConfusion h⟩
    · simp only [hchain, if_false]
      refine properAgreement_bind_self Sources.fetch_isProper fun bytes hbytes => ?_
      refine properAgreement_bind_self Sources.read_isProper fun nodes hnodes => ?_
      rw [Sources.fetch_result_eq_ok_iff] at hbytes
      rw [Sources.read_result_eq_ok_iff] at hnodes
      refine composeAll_proper (hclosed path bytes nodes hbytes hnodes) ?_
      intro span name inner hname'
      -- The template below has one more path on its chain, and one less to go.
      have hnew : path ∉ visited := fun h => hchain (List.mem_append_right _ h)
      have hvisited' : (visited ++ [path]).Nodup := by
        rw [← List.concat_eq_append]
        exact hvisited.concat hnew
      have hsub' : visited ++ [path] ⊆ paths :=
        List.append_subset.2 ⟨hsub, List.cons_subset.2 ⟨hname, List.nil_subset _⟩⟩
      have hlength' : (visited ++ [path]).length = visited.length + 1 := List.length_append
      rw [List.append_assoc]
      exact ih hvisited' hsub' (by omega) (by omega) span name inner hname'
        (hvisited'.length_le_of_subset hsub')

/-- Every limit for which the paths of a closed list leave room gives the same
composition, which is not stopped by the limit. -/
theorem compose_of_closed (hclosed : sources.Closed paths) {nodes : List Node}
    (hnames : ∀ path, sources.rule.Names nodes path → path ∈ paths) (origin : Option String)
    {depth depth' : Nat} (hdepth : paths.length + 1 ≤ depth)
    (hdepth' : paths.length + 1 ≤ depth') :
    compose sources depth' origin nodes = compose sources depth origin nodes ∧
      ∀ error, (compose sources depth origin nodes).result = .error error → error.IsProper := by
  refine Comparison.eq_of_agreement_rel (fun _ _ h => h.eq) (composeAll_proper hnames ?_)
  intro span name inner hname
  have hvisit := visitWithin_rel hclosed origin.toList List.nodup_nil (List.nil_subset _)
    (by simpa using hdepth) (by simpa using hdepth') span name inner hname
  rwa [List.append_nil] at hvisit

/-! ### Libraries -/

namespace Library

variable (library : Library) (rule : PathRule)

/-- A path that an extend names, in some nodes or in a stored template. -/
def Names (nodes : List Node) (path : String) : Prop :=
  rule.Names nodes path ∨ ∃ stored bytes loaded, library.find? stored = some bytes ∧
    parseBytes bytes stored = .ok loaded ∧ rule.Names loaded path

variable {library rule}

theorem find?_of_load {path : String} {bytes : ByteArray} (h : library.load path = .ok bytes) :
    library.find? path = some bytes := by
  unfold load at h
  split at h
  · cases h
  · split at h
    · rename_i found hfound
      rw [hfound, Except.ok.inj h]
    · cases h

theorem exists_entry_of_find? {path : String} {bytes : ByteArray}
    (h : library.find? path = some bytes) : ∃ entry ∈ library.templates, entry.2 = bytes := by
  obtain ⟨entry, hlast, hbytes⟩ := Option.map_eq_some_iff.1 h
  exact ⟨entry, List.mem_of_mem_filter (List.mem_of_getLast? hlast), hbytes⟩

theorem mem_extendedPaths {nodes : List Node} {path : String}
    (h : library.Names rule nodes path) : path ∈ library.extendedPaths rule nodes := by
  simp only [extendedPaths, List.mem_eraseDups, List.map_append, List.mem_append]
  rcases h with h | ⟨stored, bytes, loaded, hfind, hparse, h⟩
  · exact .inl (PathRule.names_iff.1 h)
  · obtain ⟨name, hname, hpath⟩ := List.mem_map.1 (PathRule.names_iff.1 h)
    obtain ⟨entry, hentry, rfl⟩ := exists_entry_of_find? hfind
    -- The label under which a template is parsed has no part in its names.
    obtain ⟨nodes', hparse', hnames⟩ : ∃ nodes', parseBytes entry.2 entry.1 = .ok nodes' ∧
        ∀ name, name ∈ Node.extendedInAll nodes' ↔ name ∈ Node.extendedInAll loaded :=
      mem_extendedInAll_parseBytes hparse
    refine .inr (List.mem_map.2 ⟨name, List.mem_flatMap.2 ⟨entry, hentry, ?_⟩, hpath⟩)
    rw [hparse']
    exact (hnames name).2 hname

/-- The paths that extends name can be listed. -/
theorem exists_names (library : Library) (rule : PathRule) (nodes : List Node) :
    ∃ paths : List String, paths.Nodup ∧ ∀ path, path ∈ paths ↔ library.Names rule nodes path := by
  classical
  refine ⟨((library.extendedPaths rule nodes).filter fun path =>
    decide (library.Names rule nodes path)).dedup, List.nodup_dedup _, fun path => ?_⟩
  rw [List.mem_dedup, List.mem_filter, decide_eq_true_eq]
  exact ⟨And.right, fun h => ⟨mem_extendedPaths h, h⟩⟩

theorem closed_of_names {nodes : List Node} {paths : List String}
    (h : ∀ path, library.Names rule nodes path → path ∈ paths) :
    (library.sources rule).Closed paths := by
  intro path bytes loaded hload hparse next hnext
  exact h next (.inr ⟨path, bytes, loaded, find?_of_load hload, hparse, hnext⟩)

end Library

/-- Extends of a library are nested no deeper than the number of paths that they
name, plus one: with any larger limit the composition is the same, and the limit
does not stop it. -/
theorem compose_terminates (library : Library) (rule : PathRule) (origin : Option String)
    (nodes : List Node) :
    ∃ paths : List String, paths.Nodup ∧
      (∀ path, path ∈ paths ↔ library.Names rule nodes path) ∧
      ∃ outcome : Traced (List Node), (∀ span, outcome.result ≠ .error (.tooDeep span)) ∧
        ∀ depth, paths.length + 1 ≤ depth →
          compose (library.sources rule) depth origin nodes = outcome := by
  obtain ⟨paths, hnodup, hpaths⟩ := library.exists_names rule nodes
  have hnames : ∀ path, library.Names rule nodes path → path ∈ paths := fun path =>
    (hpaths path).2
  have hcompose {depth : Nat} (hdepth : paths.length + 1 ≤ depth) :=
    compose_of_closed (Library.closed_of_names hnames) (fun path h => hnames path (.inl h)) origin
      (Nat.le_refl (paths.length + 1)) hdepth
  refine ⟨paths, hnodup, hpaths, compose (library.sources rule) (paths.length + 1) origin nodes,
    fun span h => ?_, fun depth hdepth => (hcompose hdepth).1⟩
  exact (hcompose (Nat.le_refl _)).2 _ h span rfl

/-- The limit that a library gives does not stop a composition. -/
theorem compose_depth (library : Library) (rule : PathRule) (origin : Option String)
    (nodes : List Node) {depth : Nat} (hdepth : library.depth rule nodes ≤ depth) :
    compose (library.sources rule) depth origin nodes =
        compose (library.sources rule) (library.depth rule nodes) origin nodes ∧
      ∀ error, (compose (library.sources rule) (library.depth rule nodes) origin nodes).result =
        .error error → error.IsProper := by
  have hnames : ∀ path, library.Names rule nodes path → path ∈ library.extendedPaths rule nodes :=
    fun path => Library.mem_extendedPaths
  exact compose_of_closed (Library.closed_of_names hnames) (fun path h => hnames path (.inl h))
    origin (Nat.le_refl _) hdepth

end Stencil
