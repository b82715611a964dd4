/-
When rendering ends.

The nodes in a value are put out where the value is, and they can read the value in which
they are.  So rendering may come to put out a value while it is putting it out, and if the
same variables are visible then, it will never end.  Nothing else keeps it from ending.

* **`Setting.Outputs`** — putting out some nodes leads to putting out others;
* **`Setting.Reenters`** — it leads to nodes that are being put out;
* **`Outputs.ends`** — nodes that end lead to nodes that end sooner;
* **`exists_outputs`** — nodes that never end lead to some that never end;
* **`returns_iff_not_reenters`** — rendering returns if it does not re-enter any nodes, and
  only then.

## Design notes

That one output leads to another is said by what can be observed: if the other one fails,
whatever its fault, then the first one fails with that fault.  So there is no second
description of what rendering does.

The loops around nodes are stacked on those around the value that holds them, and may go on
to grow.  So outputs are compared by the variables that are visible in them.
-/
import Mathlib.Data.Set.Finite.Powerset
import Mathlib.Order.Preorder.Finite
import Stencil.Proofs.Survey

namespace Stencil

/-! ### More depth -/

variable {setting : Setting} {scopes scopes' : Scopes} {nodes : List Node}

/-- Of values and variables nothing needs to be known to compare two renderings. -/
theorem renderAll_approximates {stored stored' : Stores}
    (hstored : ∀ scopes scopes' nodes, scopes.Agree scopes' →
      Approximates (stored scopes nodes) (stored' scopes' nodes))
    (hscopes : scopes.Agree scopes') (nodes : List Node) :
    Approximates (renderAll setting stored scopes nodes)
      (renderAll setting stored' scopes' nodes) := by
  have hmeets : Survey.unknown.Meets scopes scopes' := ⟨hscopes, fun _ _ _ => trivial⟩
  have hnodes : ∀ node ∈ nodes, RendersInStep .unknown setting node := fun node _ =>
    rendition_inStep (Survey.unknown_holds setting) node fun _ _ _ _ => trivial
  refine (renderAll_inStep hmeets hnodes).approximates ?_
  intro inner inner' others hcall
  exact hstored inner inner' others hcall.1.1

/-- With more depth the result is better, and it depends on the visible variables only. -/
theorem renderWithin_approximates {depth depth' : Nat} (hdepth : depth ≤ depth')
    (hscopes : scopes.Agree scopes') (nodes : List Node) :
    Approximates (renderWithin setting depth scopes nodes)
      (renderWithin setting depth' scopes' nodes) := by
  induction depth generalizing depth' scopes scopes' nodes with
  | zero => exact .inl rfl
  | succ depth ih =>
    obtain ⟨depth', rfl⟩ := Nat.exists_eq_add_one_of_ne_zero (by omega : depth' ≠ 0)
    refine renderAll_approximates ?_ hscopes nodes
    intro inner inner' others hinner
    exact ih (by omega) hinner others

theorem renderWithin_congr (depth : Nat) (hscopes : scopes.Agree scopes') (nodes : List Node) :
    renderWithin setting depth scopes nodes = renderWithin setting depth scopes' nodes :=
  (renderWithin_approximates (Nat.le_refl depth) hscopes nodes).antisymm
    (renderWithin_approximates (Nat.le_refl depth) hscopes.symm nodes)

/-- Once rendering has ended, more depth changes nothing. -/
theorem render_eq_of_le {depth depth' : Nat} (hdepth : depth ≤ depth')
    (h : render setting depth nodes ≠ .error .tooDeep) :
    render setting depth' nodes = render setting depth nodes := by
  have hmore : Approximates (render setting depth nodes) (render setting depth' nodes) :=
    renderAll_approximates
      (fun _ _ others hinner => renderWithin_approximates hdepth hinner others) (.refl []) nodes
  exact (hmore.resolve_left h).symm

/-! ### Outputs -/

/-- Nodes that are put out, and the loops around them. -/
abbrev Output := Scopes × List Node

namespace Setting

/-- Putting out some nodes leads to putting out others: if only the others fail, where the
same variables are visible, the first ones fail with the same fault.  The number is how deep
the nodes in values may be nested that have been put out before. -/
def Outputs (setting : Setting) (outer inner : Output) : Prop :=
  ∃ depth, ∀ stored fault,
    FailsAt stored (renderWithin setting depth) inner.1 inner.2 fault →
      renderAll setting stored outer.1 outer.2 = .error fault

/-- Rendering comes to put out the nodes of a value, and before it has done so, it comes to
put them out again where the same variables are visible. -/
def Reenters (setting : Setting) (nodes : List Node) : Prop :=
  ∃ scopes again held, Relation.TransGen setting.Outputs ([], nodes) (scopes, held) ∧
    Relation.TransGen setting.Outputs (scopes, held) (again, held) ∧ again.Agree scopes

/-- Rendering returns: from some depth on it has a result, and always the same one. -/
def Returns (setting : Setting) (nodes : List Node) : Prop :=
  ∃ limit result, result ≠ .error .tooDeep ∧
    ∀ depth ≥ limit, render setting depth nodes = result

/-- Nodes are put out with values in them nested less deep than that. -/
def Ends (setting : Setting) (depth : Nat) (output : Output) : Prop :=
  renderWithin setting depth output.1 output.2 ≠ .error .tooDeep

end Setting

/-- Answers with one of them replaced by a fault. -/
theorem exists_failsAt (answers : Stores) (scopes : Scopes) (nodes : List Node)
    (fault : RenderFault) : ∃ stored, FailsAt stored answers scopes nodes fault := by
  classical
  refine ⟨fun inner others =>
    if inner.Agree scopes ∧ others = nodes then .error fault else answers inner others, ?_, ?_⟩
  · intro inner hinner
    exact if_pos ⟨hinner, rfl⟩
  · intro inner others hother
    exact if_neg hother

/-- Answers are approximated with one of them replaced by a fault, if that one approximates
the fault and the others approximate what they were. -/
theorem FailsAt.approximates {stored stored' answers : Stores} {fault : RenderFault}
    (h : FailsAt stored' answers scopes nodes fault)
    (hhere : ∀ inner, inner.Agree scopes → Approximates (stored inner nodes) (.error fault))
    (helsewhere : ∀ inner inner' others, ¬ (inner.Agree scopes ∧ others = nodes) →
      inner.Agree inner' → Approximates (stored inner others) (answers inner' others))
    (inner inner' : Scopes) (others : List Node) (hinner : inner.Agree inner') :
    Approximates (stored inner others) (stored' inner' others) := by
  by_cases hsame : inner.Agree scopes ∧ others = nodes
  · obtain ⟨hagree, rfl⟩ := hsame
    rw [h.here inner' (hinner.symm.trans hagree)]
    exact hhere inner hagree
  · have hsame' : ¬ (inner'.Agree scopes ∧ others = nodes) := fun h =>
      hsame ⟨hinner.trans h.1, h.2⟩
    rw [h.elsewhere inner' others hsame']
    exact helsewhere inner inner' others hsame hinner

namespace Setting

/-- If an output leads to another one that is missing, it has whatever fault that one has. -/
theorem Outputs.eq_error {outer inner : Output} (h : setting.Outputs outer inner) {depth : Nat}
    (hmissing : renderWithin setting depth inner.1 inner.2 = .error .tooDeep)
    (hends : setting.Ends (depth + 1) outer) {fault : RenderFault} (hfault : fault ≠ .tooDeep) :
    renderWithin setting (depth + 1) outer.1 outer.2 = .error fault := by
  obtain ⟨before, houtputs⟩ := h
  obtain ⟨stored, hstored⟩ := exists_failsAt (renderWithin setting before) inner.1 inner.2 fault
  obtain ⟨stored', hstored'⟩ :=
    exists_failsAt (renderWithin setting (max before depth)) inner.1 inner.2 fault
  -- With the fault in the place of the inner output, the outer one has that fault, also if
  -- more of the others are answered.
  have hless : Approximates (renderAll setting stored outer.1 outer.2)
      (renderAll setting stored' outer.1 outer.2) := by
    refine renderAll_approximates (hstored'.approximates ?_ ?_) (.refl _) _
    · exact fun scopes hagree => .inr (hstored.here scopes hagree)
    · intro scopes _ others hother hagree
      rw [hstored.elsewhere scopes others hother]
      exact renderWithin_approximates (Nat.le_max_left before depth) hagree others
  rw [houtputs stored fault hstored] at hless
  have hresult := hless.resolve_left fun h => hfault (Except.error.inj h)
  -- But it ends where the inner one is missing, so it ends alike with any answer there.
  have hanyway : Approximates (renderWithin setting (depth + 1) outer.1 outer.2)
      (renderAll setting stored' outer.1 outer.2) := by
    refine renderAll_approximates (hstored'.approximates ?_ ?_) (.refl _) _
    · intro scopes hagree
      rw [renderWithin_congr depth hagree]
      exact .inl hmissing
    · intro _ _ others _ hagree
      exact renderWithin_approximates (Nat.le_max_right before depth) hagree others
  rw [hanyway.resolve_left hends, ← hresult]

/-- **Nodes that end lead to nodes that end sooner.** -/
theorem Outputs.ends {outer inner : Output} (h : setting.Outputs outer inner) {depth : Nat}
    (hends : setting.Ends (depth + 1) outer) : setting.Ends depth inner := by
  intro hmissing
  -- No result is two faults.
  have hhost : RenderFault.host "" "" ≠ .tooDeep := by simp
  have htag : RenderFault.unknownTag "" default ≠ .tooDeep := by simp
  have hone := h.eq_error hmissing hends hhost
  have hother := h.eq_error hmissing hends htag
  rw [hone] at hother
  cases hother

theorem ends_of_transGen {outer inner : Output}
    (h : Relation.TransGen setting.Outputs outer inner) {depth : Nat}
    (hends : setting.Ends depth outer) : ∃ sooner < depth, setting.Ends sooner inner := by
  have hstep {outer inner : Output} {depth : Nat} (h : setting.Outputs outer inner)
      (hends : setting.Ends depth outer) : ∃ sooner < depth, setting.Ends sooner inner := by
    cases depth with
    | zero => exact absurd rfl hends
    | succ depth => exact ⟨depth, Nat.lt_succ_self depth, h.ends hends⟩
  induction h with
  | single h => exact hstep h hends
  | tail _ h ih =>
    obtain ⟨middle, hmiddle, hends⟩ := ih
    obtain ⟨sooner, hsooner, hends⟩ := hstep h hends
    exact ⟨sooner, by omega, hends⟩

/-- Nodes that lead to themselves do not end. -/
theorem not_ends_of_transGen {again : Scopes}
    (h : Relation.TransGen setting.Outputs (scopes, nodes) (again, nodes))
    (hagain : again.Agree scopes) (depth : Nat) : ¬ setting.Ends depth (scopes, nodes) := by
  -- They would end sooner each time.
  induction depth using Nat.strong_induction_on with
  | h depth ih =>
    intro hends
    obtain ⟨sooner, hsooner, hends⟩ := ends_of_transGen h hends
    refine ih sooner hsooner ?_
    rwa [Ends, renderWithin_congr sooner hagain] at hends

/-! ### Nodes that do not end -/

/-- An output that rendering can come to, and that does not end. -/
structure IsEndless (setting : Setting) (nodes : List Node) (output : Output) : Prop where
  covers : (setting.survey nodes).Covers output.1
  sequence : output.2 ∈ setting.Sequences nodes
  endless : ∀ depth, ¬ setting.Ends depth output

/-- **Nodes that do not end lead to nodes that do not end.** -/
theorem exists_outputs (htags : setting.tags = Builtin.registry) {outer : Output}
    (h : setting.IsEndless nodes outer) :
    ∃ inner, setting.Outputs outer inner ∧ setting.IsEndless nodes inner := by
  have hmeets : (setting.survey nodes).Meets outer.1 outer.1 := ⟨.refl _, h.covers⟩
  have hnodes : ∀ node ∈ outer.2, RendersInStep (setting.survey nodes) setting node :=
    fun node hnode => rendition_inStep (survey_holds htags) node (survey_names h.sequence node hnode)
  have hmissing : ∀ depth ≥ 0, renderAll setting (renderWithin setting depth) outer.1 outer.2 =
      .error .tooDeep := fun depth _ => not_not.1 (h.endless (depth + 1))
  obtain ⟨scopes, held, hcalls, hendless, limit, -, hfails⟩ :=
    (renderAll_inStep hmeets hnodes).exists_unanswered
      (fun depth depth' scopes scopes' others hdepth hagree =>
        renderWithin_approximates hdepth hagree others) hmissing
  refine ⟨(scopes, held), ⟨limit, hfails limit (Nat.le_refl limit)⟩, hcalls.1.2, ?_, ?_⟩
  · exact .inr (hcalls.2.resolve_left Bool.false_ne_true)
  · intro depth
    exact not_not.2 (hendless depth)

/-- The variables that are visible, with what they hold. -/
def visible (output : Output) : Set (String × Value) :=
  {entry | output.1.find? entry.1 = some entry.2}

theorem agree_of_visible_eq {output output' : Output} (h : visible output = visible output') :
    output.1.Agree output'.1 := by
  have hiff (name : String) (value : Value) :
      output.1.find? name = some value ↔ output'.1.find? name = some value :=
    Set.ext_iff.1 h (name, value)
  intro name
  cases hfound : output.1.find? name with
  | some value => exact ((hiff name value).1 hfound).symm
  | none =>
    cases hfound' : output'.1.find? name with
    | none => rfl
    | some value => rw [(hiff name value).2 hfound'] at hfound; cases hfound

/-- From nodes that do not end, outputs lead on without end. -/
theorem IsEndless.exists_chain (htags : setting.tags = Builtin.registry)
    (h : setting.IsEndless nodes ([], nodes)) :
    ∃ chain : Nat → Output, chain 0 = ([], nodes) ∧
      (∀ n, setting.IsEndless nodes (chain n)) ∧
      ∀ n, setting.Outputs (chain n) (chain (n + 1)) := by
  choose! next houtputs hendless using
    fun (output : Output) (h : setting.IsEndless nodes output) => exists_outputs htags h
  have hall (n : Nat) : setting.IsEndless nodes (next^[n] ([], nodes)) := by
    induction n with
    | zero => exact h
    | succ n ih =>
      rw [Function.iterate_succ_apply']
      exact hendless _ ih
  refine ⟨fun n => next^[n] ([], nodes), rfl, hall, fun n => ?_⟩
  show setting.Outputs (next^[n] ([], nodes)) (next^[n + 1] ([], nodes))
  rw [Function.iterate_succ_apply']
  exact houtputs _ (hall n)

/-- **There are finitely many outputs to come to**, if only what is visible counts, so outputs
that lead on without end lead back. -/
theorem IsEndless.reenters (htags : setting.tags = Builtin.registry)
    (h : setting.IsEndless nodes ([], nodes)) : setting.Reenters nodes := by
  obtain ⟨chain, hstart, hendless, houtputs⟩ := h.exists_chain htags
  have hfinite : (𝒫 {entry : String × Value | setting.Binds nodes entry.1 entry.2} ×ˢ
      setting.Sequences nodes).Finite := finite_binds.powerset.prod finite_sequences
  -- The first output is that of the template, which no value need hold.
  have hmem (n : Nat) : (visible (chain (n + 1)), (chain (n + 1)).2) ∈
      𝒫 {entry : String × Value | setting.Binds nodes entry.1 entry.2} ×ˢ
        setting.Sequences nodes :=
    ⟨fun entry hentry => (hendless (n + 1)).covers entry.1 entry.2 hentry,
      (hendless (n + 1)).sequence⟩
  have hleads {m n : Nat} (hlt : m < n) :
      Relation.TransGen setting.Outputs (chain m) (chain n) :=
    Nat.rel_of_forall_rel_succ_of_lt _ (fun n => .single (houtputs n)) hlt
  obtain ⟨m, n, hlt, hsame⟩ := hfinite.exists_lt_map_eq_of_forall_mem hmem
  obtain ⟨hvisible, hheld⟩ := Prod.ext_iff.1 hsame
  refine ⟨(chain (m + 1)).1, (chain (n + 1)).1, (chain (m + 1)).2, ?_, ?_,
    (agree_of_visible_eq hvisible).symm⟩
  · exact hstart ▸ hleads (Nat.succ_pos m)
  · have hagain : ((chain (n + 1)).1, (chain (m + 1)).2) = chain (n + 1) := Prod.ext rfl hheld
    rw [hagain]
    exact hleads (Nat.succ_lt_succ hlt)

/-! ### When rendering returns -/

theorem returns_of_ne {depth : Nat} (h : render setting depth nodes ≠ .error .tooDeep) :
    setting.Returns nodes :=
  ⟨depth, render setting depth nodes, h, fun _ hdepth => render_eq_of_le hdepth h⟩

/-- **Rendering returns exactly if it does not re-enter any nodes**, and if it does re-enter
some, it goes on at every depth. -/
theorem returns_iff_not_reenters (htags : setting.tags = Builtin.registry) (nodes : List Node) :
    (setting.Returns nodes ↔ ¬ setting.Reenters nodes) ∧
      (setting.Reenters nodes → ∀ depth, render setting depth nodes = .error .tooDeep) := by
  have hreenters (h : setting.Reenters nodes) (depth : Nat) :
      render setting depth nodes = .error .tooDeep := by
    obtain ⟨scopes, again, held, houtputs, hback, hagain⟩ := h
    -- If the template ended, so would the nodes that lead to themselves.
    by_contra hresult
    have hroot : setting.Ends (depth + 1) ([], nodes) := hresult
    obtain ⟨sooner, -, hends⟩ := ends_of_transGen houtputs hroot
    exact not_ends_of_transGen hback hagain sooner hends
  refine ⟨⟨?_, ?_⟩, hreenters⟩
  · rintro ⟨limit, result, hresult, hends⟩ h
    exact hresult ((hends limit (Nat.le_refl limit)).symm.trans (hreenters h limit))
  · intro h
    by_contra hnever
    refine h (IsEndless.reenters htags ⟨?_, .inl rfl, ?_⟩)
    · rintro name value ⟨⟩
    · rintro (_ | depth) hends
      · exact hends rfl
      · exact hnever (returns_of_ne hends)

/-- A value that is put out within itself, in a loop that hides the condition on which it is:
rendering comes to the same nodes twice and returns. -/
theorem returns_iff_not_reenters_loop :
    let held : List Node := [.raw default "a", .conditional default [(.path default ["more"],
      [.loop default (.path default ["more"]) (.path default ["items"])
        [.path default ["x"]]])]]
    let context : Value := .dictionary
      [("items", .array [.bool false]), ("more", .bool true), ("x", .nodes held)]
    let setting : Setting := ⟨Builtin.registry, fun _ _ => .ok "", context, .empty⟩
    let nodes : List Node := [.path default ["x"]]
    setting.tags = Builtin.registry ∧ render setting 1 nodes = .error .tooDeep ∧
      render setting 2 nodes = .ok "aa" ∧ ¬ setting.Reenters nodes := by
  intro held context setting nodes
  have htwice : render setting 2 nodes = .ok "aa" := rfl
  have hends : render setting 2 nodes ≠ .error .tooDeep := by
    rw [htwice]
    simp
  exact ⟨rfl, rfl, htwice, (returns_iff_not_reenters rfl nodes).1.1 (returns_of_ne hends)⟩

/-- A value that holds the variable in which it is: rendering that variable never returns. -/
theorem not_returns_of_self :
    let nodes : List Node := [.path default ["x"]]
    let context : Value := .dictionary [("x", .nodes nodes)]
    let setting : Setting := ⟨Builtin.registry, fun _ _ => .ok "", context, .empty⟩
    Node.allResolved nodes ∧ (∀ depth, render setting depth nodes = .error .tooDeep) ∧
      ¬ setting.Returns nodes := by
  intro nodes context setting
  have hstored (depth : Nat) : renderWithin setting depth [] nodes = .error .tooDeep := by
    induction depth with
    | zero => rfl
    | succ depth ih =>
      show renderWithin setting depth [] nodes >>= _ = _
      rw [ih]
      rfl
  have hrender (depth : Nat) : render setting depth nodes = .error .tooDeep :=
    hstored (depth + 1)
  refine ⟨rfl, hrender, ?_⟩
  rintro ⟨limit, result, hresult, hends⟩
  exact hresult ((hends limit (Nat.le_refl limit)).symm.trans (hrender limit))

end Setting

end Stencil
