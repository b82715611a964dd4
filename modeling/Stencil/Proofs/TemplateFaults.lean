/-
The faults that templates can have.

Rendering can refuse trees that no template spells and trees that are not composed.
Templates that are read and then composed never come to this: what goes wrong with
them has to do with tags and with the values of the data, but for an embed, which is
refused wherever it is written.

* **`Node.Stems.formed`** — composition keeps to nodes that templates can spell;
* **`Node.Faults.ofTemplates`** — the faults that such nodes cause;
* **`Session.run_ofTemplates`** — in a session all faults of rendering are of this
  kind, as long as its templates stay the same.

## Design notes

The cache is filled in a session only with what has been composed, which carries over
what holds of the nodes of a composition (`Session.Follows`).  What is put into
it by hand need not come from a template.
-/
import Stencil.Proofs.Formation
import Stencil.Proofs.Places.Rendering

namespace Stencil

/-- A fault that templates can have: nothing was left to be replaced, every loop binds a
name, no operator stands where none can, and an embed is written in a given template. -/
structure RenderFault.OfTemplates (given : ByteArray → String → Prop) (fault : RenderFault) :
    Prop where
  resolved : ∀ kind span, fault ≠ .unresolved kind span
  loopVariable : ∀ found span, fault ≠ .mismatch (.loopVariable found) span
  suffixed : ∀ op span, fault ≠ .mismatch (.suffixed op) span
  operands : ∀ op left right span, fault = .mismatch (.operands op left right) span →
    op ≠ .not ∧ op ≠ .and ∧ op ≠ .or
  unsupported : ∀ kind span, fault = .unsupported kind span → ∃ bytes label nodes path,
    given bytes label ∧ parseBytes bytes label = .ok nodes ∧
      Node.OccursIn (.embed span path) nodes

namespace Node

variable {written : Node → Prop} {node : Node}

/-- A node that stems from formed ones is formed. -/
theorem Stems.formed (h : node.Stems written)
    (hwritten : ∀ origin, written origin → origin.Formed) : node.Formed := by
  cases h with
  | joined => trivial
  | rebuilt horigin hrebuilt =>
    have hformed := hwritten _ horigin
    cases hrebuilt with
    | leaf => exact hformed
    | loop hkey =>
      -- What a loop binds is a name, and so it has stayed.
      obtain ⟨place, name, rfl⟩ := hformed
      exact ⟨place, name, hkey place [name] rfl⟩
    | tag | embed | conditional | joined => trivial
    | binary | signed | suffixed => exact hformed

/-- An embed that stems from written nodes is itself written, but for what it names. -/
theorem Stems.exists_embed {span : Span} {path : Node} (h : (Node.embed span path).Stems written) :
    ∃ path', written (.embed span path') := by
  cases h with
  | rebuilt horigin hrebuilt =>
    cases hrebuilt with
    | leaf => exact ⟨path, horigin⟩
    | embed => exact ⟨_, horigin⟩

end Node

variable {given : ByteArray → String → Prop} {sources : Sources}

/-- **The faults of a node that stems from templates.** -/
theorem Node.Faults.ofTemplates (hparse : sources.parse = parseBytes) {node : Node}
    {fault : RenderFault} (h : node.Faults fault) (hstems : node.Stems (sources.Writes given)) :
    fault.OfTemplates given := by
  have hwritten : ∀ origin, sources.Writes given origin → origin.Formed := by
    rintro origin ⟨bytes, label, nodes, -, hnodes, hoccurs⟩
    rw [hparse] at hnodes
    exact parseBytes_formed hnodes hoccurs
  have hformed : node.Formed := hstems.formed hwritten
  have hkept : node.isComposition = false := hstems.isComposition_eq_false
  cases h with
  | imported | extend => cases hkept
  | suffixed => exact hformed.elim
  | host => exact hformed.elim
  | loopVariable hkey =>
    obtain ⟨place, name, hpath⟩ := hformed
    exact absurd hpath (hkey place name)
  | embed =>
    obtain ⟨path, bytes, label, nodes, hgiven, hnodes, hoccurs⟩ := hstems.exists_embed
    refine ⟨nofun, nofun, nofun, nofun, ?_⟩
    rintro _ _ ⟨⟩
    exact ⟨bytes, label, nodes, path, hgiven, hparse ▸ hnodes, hoccurs⟩
  | binary hand hor hrejects =>
    cases hrejects with
    | overflow | divisionByZero => exact ⟨nofun, nofun, nofun, nofun, nofun⟩
    | operands =>
      refine ⟨nofun, nofun, nofun, ?_, nofun⟩
      rintro _ _ _ _ ⟨⟩
      -- An infix operator has a strength, and a negation has none.
      exact ⟨by rintro rfl; exact absurd hformed (Nat.lt_irrefl 0), hand, hor⟩
  | unknownTag | tag | notIterable | signOverflow | signed =>
    exact ⟨nofun, nofun, nofun, nofun, nofun⟩

/-! ### Sessions -/

/-- What goes wrong in rendering the composition of given templates for plain data. -/
theorem finish_ofTemplates (hparse : sources.parse = parseBytes) {setting : Setting}
    (hsetting : setting.IsPlain) {composed : Except ComposeError (List Node)}
    (hcomposed : ∀ nodes, composed = .ok nodes → StemAll (sources.Writes given) nodes)
    {fault : RenderFault} (hfault : setting.finish composed = .error (.render fault)) :
    fault.OfTemplates given := by
  rcases Setting.finish_eq_error hfault with ⟨cause, -, herror⟩ |
    ⟨nodes, fault', hnodes, hrender, herror⟩
  · cases herror
  · cases herror
    have hblamed := render_blamed hsetting storedDepth (hcomposed nodes hnodes)
    rw [hrender] at hblamed
    obtain ⟨node, hstems, hfaults⟩ := hblamed
    exact hfaults.ofTemplates hparse hstems

/-- The templates that an operation may read: those in the library, and the one that it
brings along. -/
def Operation.Reads (library : Library) (operation : Operation) (bytes : ByteArray)
    (label : String) : Prop :=
  library.load label = .ok bytes ∨
    ∃ given context, operation = .renderInline bytes given context ∧ label = given.getD inlineLabel

/-- The context of an operation holds no nodes, if it has one. -/
def Operation.IsForData : Operation → Prop
  | .render _ (.ok context) | .renderInline _ _ (.ok context) => context.isPlain
  | _ => True

namespace Session

variable {session fresh : Session}

/-- What a session gives for a name is composed of its templates, be it kept or not. -/
theorem Follows.resolve_stems (h : session.Follows fresh)
    (hgiven : ∀ path bytes, fresh.library.load path = .ok bytes → given bytes path) {name : String}
    {nodes : List Node} (hnodes : (session.resolve name).1.result = .ok nodes) :
    StemAll (fresh.sources.Writes given) nodes := by
  have hbuilt (path : String) (hbuilt : (fresh.built path).result = .ok nodes) :
      StemAll (fresh.sources.Writes given) nodes := by
    have hmeets : (fresh.built path).Meets (fun _ => True)
        (StemAll (fresh.sources.Writes given)) (fresh.sources.Explains given) :=
      composePath_stems (fun path bytes _ hload => hgiven path bytes hload) fresh.depth path
    have hstems := hmeets fun _ _ => trivial
    rwa [hbuilt] at hstems
  rcases session.resolve_cases name with ⟨cache, kept, hcache, hget, hresolve⟩ | hresolve |
    ⟨cache, kept, -, -, hresolve⟩
  · -- What is kept has been composed, perhaps under another spelling of its path.
    rw [hresolve] at hnodes
    obtain rfl : kept = nodes := Except.ok.inj hnodes
    obtain ⟨origin, -, horigin⟩ := h.cache cache hcache _ kept hget
    exact hbuilt origin horigin
  · rw [hresolve, h.built] at hnodes
    exact hbuilt _ hnodes
  · rw [hresolve, h.built] at hnodes
    exact hbuilt _ hnodes

/-- So is what it gives for a template that is brought along. -/
theorem Follows.resolveInline_stems (h : session.Follows fresh)
    (hgiven : ∀ path bytes, fresh.library.load path = .ok bytes → given bytes path)
    {bytes : ByteArray} {label : Option String} (hbytes : given bytes (label.getD inlineLabel))
    {nodes : List Node} (hnodes : (session.resolveInline bytes label).result = .ok nodes) :
    StemAll (fresh.sources.Writes given) nodes := by
  have hmeets : (fresh.resolveInline bytes label).Meets (fun _ => True)
      (StemAll (fresh.sources.Writes given)) (fresh.sources.Explains given) :=
    composeInline_stems (fun path bytes _ hload => hgiven path bytes hload) fresh.depth hbytes
  have hstems := hmeets fun _ _ => trivial
  rwa [← h.resolveInline, hnodes] at hstems

/-- **One operation fails to render as templates can only.** -/
theorem perform_ofTemplates (h : session.Follows fresh) (htags : fresh.tags = Builtin.registry)
    {operation : Operation} (hdata : operation.IsForData) {fault : RenderFault}
    (hfault : (session.perform operation).answer = .text (.error (.render fault))) :
    fault.OfTemplates (operation.Reads fresh.library) := by
  have hstored (path : String) (bytes : ByteArray) (hload : fresh.library.load path = .ok bytes) :
      operation.Reads fresh.library bytes path := .inl hload
  cases operation with
  | render name context =>
    cases context with
    | error message => cases hfault
    | ok context =>
      have hfinish : ((session.resolve name).2.setting context).finish
          (session.resolve name).1.result = .error (.render fault) := Answer.text.inj hfault
      have hsetting : ((session.resolve name).2.setting context).IsPlain :=
        setting_isPlain ((session.tags_resolve name).trans (h.tags.trans htags)) hdata
      exact finish_ofTemplates rfl hsetting (fun nodes => h.resolve_stems hstored) hfinish
  | renderInline bytes label context =>
    cases context with
    | error message => cases hfault
    | ok context =>
      have hfinish : (session.setting context).finish (session.resolveInline bytes label).result =
          .error (.render fault) := Answer.text.inj hfault
      have hsetting : (session.setting context).IsPlain :=
        setting_isPlain (h.tags.trans htags) hdata
      have hbrought : (Operation.renderInline bytes label (.ok context)).Reads fresh.library bytes
          (label.getD inlineLabel) := .inr ⟨label, .ok context, rfl, rfl⟩
      exact finish_ofTemplates rfl hsetting
        (fun nodes => h.resolveInline_stems hstored hbrought) hfinish
  | cacheGet | cacheRemove | cacheContains | cacheClear | cacheInsert =>
    -- The cache answers with a template or a truth value, if there is one.
    simp only [perform, withCache] at hfault
    split at hfault <;> cases hfault
  | put | delete | fault | store | resolve | resolveInline | setCaching => cases hfault

/-- A whole run fails to render as templates can only. -/
theorem Follows.run_ofTemplates (h : session.Follows fresh) (hfresh : fresh.IsPlain)
    (htags : fresh.tags = Builtin.registry) {operations : List Operation}
    (hkeeps : ∀ operation ∈ operations, operation.KeepsTemplates)
    (hdata : ∀ operation ∈ operations, operation.IsForData) :
    List.Forall₂
      (fun operation reply => ∀ fault, reply.answer = .text (.error (.render fault)) →
        fault.OfTemplates (operation.Reads fresh.library))
      operations (session.run operations) := by
  induction operations generalizing session with
  | nil => exact .nil
  | cons operation operations ih =>
    obtain ⟨hkeep, hkeeps⟩ := List.forall_mem_cons.1 hkeeps
    obtain ⟨hdatum, hdata⟩ := List.forall_mem_cons.1 hdata
    obtain ⟨hfollows, -⟩ := perform_follows h hfresh hkeep
    have hreply : ∀ fault, (session.perform operation).answer = .text (.error (.render fault)) →
        fault.OfTemplates (operation.Reads fresh.library) :=
      fun fault hfault => perform_ofTemplates h htags hdatum hfault
    exact .cons hreply (ih hfollows hkeeps hdata)

/-- **Templates have their own faults only.**  While the templates of a session stay the
same, whatever goes wrong in rendering them, or one that is brought along, for plain data
is not due to a tree that no template spells.  Data that comes from JSON is plain. -/
theorem run_faults_ofTemplates (settings : Settings) (templates : List (String × ByteArray))
    (host : HostNode → Value → Except String String) (storage : Storage)
    (operations : List Operation)
    (hkeeps : ∀ operation ∈ operations, operation.KeepsTemplates)
    (hdata : ∀ operation ∈ operations, operation.IsForData) :
    let library : Library := ⟨templates, []⟩
    (∀ json : Json, (Value.ofJson json).isPlain) ∧
      List.Forall₂
        (fun operation reply => ∀ fault, reply.answer = .text (.error (.render fault)) →
          fault.OfTemplates (operation.Reads library))
        operations ((start settings library Builtin.registry host storage).run operations) := by
  intro library
  refine ⟨Value.isPlain_ofJson, ?_⟩
  have hfollows := start_follows settings library Builtin.registry host storage
  exact hfollows.run_ofTemplates ⟨rfl, rfl⟩ rfl hkeeps hdata

/-- An embed that is written in an export of one template and refused in another, and an
operator that does not apply to its operands in a template that is brought along. -/
theorem run_faults_ofTemplates_embed :
    let templates : List (String × ByteArray) := [
      ("v/a", "#extend(\"b\"):#export(\"x\"):#embed(\"c\")#endexport#endextend".toUTF8),
      ("v/b", "[#import(\"x\")]".toUTF8)]
    let operations : List Operation := [.render "a" (.ok (.dictionary [])),
      .renderInline "#(1 < true)".toUTF8 none (.ok .null)]
    let replies := (start ⟨"v", "", true⟩ ⟨templates, []⟩ Builtin.registry (fun _ _ => .ok "")
      .empty).run operations
    let reasons := replies.map fun reply =>
      match reply.answer with
      | .text (.error (.render fault)) => fault.message
      | _ => ""
    (∀ operation ∈ operations, operation.KeepsTemplates) ∧
      (∀ operation ∈ operations, operation.IsForData) ∧
      reasons = ["embed is not supported by this serializer", "cannot apply '<' to int and bool"] ∧
      (∀ json : Json, (Value.ofJson json).isPlain) ∧
      List.Forall₂
        (fun operation reply => ∀ fault, reply.answer = .text (.error (.render fault)) →
          fault.OfTemplates (operation.Reads ⟨templates, []⟩))
        operations replies := by
  intro templates operations replies reasons
  have hkeeps : ∀ operation ∈ operations, operation.KeepsTemplates := by
    simp [operations, Operation.KeepsTemplates]
  have hdata : ∀ operation ∈ operations, operation.IsForData := by
    simp [operations, Operation.IsForData, Value.isPlain, Value.entriesPlain]
  have hreasons : reasons = ["embed is not supported by this serializer",
      "cannot apply '<' to int and bool"] := by decide +kernel
  exact ⟨hkeeps, hdata, hreasons, run_faults_ofTemplates ⟨"v", "", true⟩ templates
    (fun _ _ => .ok "") .empty operations hkeeps hdata⟩

end Session

end Stencil
