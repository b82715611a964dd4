/-
The cache is a snapshot.

Whatever is asked of a session, and however its templates change meanwhile, the
cache holds what the session itself has composed or was given, and what it holds
stays as it is.

* **`Session.Obtains`** — an operation comes to the composed template of a path;
* **`Operation.Drops`**, **`Operation.Alters`** — the operations after which a path
  is not in the cache, and those that may put another template there;
* **`Session.contains_perform_iff`** — the paths in the cache after one operation;
* **`Session.contains_after_iff`** — and after any operations one after the other;
* **`Session.after_snapshot`** — the cache as a record of a run.

## Design notes

A cache does not say where its templates come from.  So the paths in it are
compared with the history of the session: a path is there exactly if some
operation came to its template and no later one dropped it.  Whether one came to
a template is told from its answer alone: a template that is composed and cannot
be rendered then is kept as well.
-/
import Mathlib
import Stencil.Session

namespace Stencil

/-! ### Look-ups -/

namespace Cache

variable {cache : Cache} {path other : String}

theorem contains_iff : cache.contains path ↔ ∃ nodes, cache.get? path = some nodes := by
  rw [contains, Option.isSome_iff_exists]

theorem not_contains_empty (path : String) : ¬ empty.contains path :=
  Bool.false_ne_true

/-- Paths with the same components are one path to the cache. -/
theorem get?_congr (h : Path.key other = Path.key path) : cache.get? other = cache.get? path := by
  rw [get?, get?, h]

theorem get?_remove_of_ne (h : Path.key other ≠ Path.key path) :
    (cache.remove path).get? other = cache.get? other :=
  lookup_filter_ne h cache.entries

theorem contains_remove_iff :
    (cache.remove path).contains other ↔
      cache.contains other ∧ Path.key path ≠ Path.key other := by
  rw [contains_iff, contains_iff]
  by_cases h : Path.key other = Path.key path
  · simp [get?_remove_self cache h, h]
  · simp [get?_remove_of_ne h, Ne.symm h]

theorem contains_insert_iff {nodes : List Node} :
    (cache.insert path nodes).contains other ↔
      Path.key path = Path.key other ∨ cache.contains other := by
  rw [contains_iff, contains_iff]
  by_cases h : Path.key other = Path.key path
  · simp [get?_insert_self cache h, h]
  · simp [get?_insert_of_ne cache h, Ne.symm h]

end Cache

/-! ### Operations -/

/-- The operations after which a path is not in the cache. -/
def Operation.Drops (path : String) : Operation → Prop
  | .setCaching _ | .cacheClear => True
  | .cacheRemove other => Path.key other = Path.key path
  | _ => False

/-- The operations that may put another template in the place of the one that is
kept for a path, or none. -/
def Operation.Alters (path : String) : Operation → Prop
  | .setCaching _ | .cacheClear => True
  | .cacheRemove other | .cacheInsert other _ => Path.key other = Path.key path
  | _ => False

namespace Session

/-- The session behind some operations. -/
def after (session : Session) (operations : List Operation) : Session :=
  operations.foldl (fun session operation => (session.perform operation).session) session

/-- An operation comes to the composed template of a path: it gives the template,
renders it, fails when it renders it, or puts it into the cache by hand. -/
inductive Obtains (session : Session) (path : String) : Operation → Prop
  | resolved {name : String} {nodes : List Node} :
      Path.key (session.normalize name) = Path.key path →
      (session.perform (.resolve name)).answer = .nodes (.ok nodes) →
      Obtains session path (.resolve name)
  | rendered {name output : String} {context : Value} :
      Path.key (session.normalize name) = Path.key path →
      (session.perform (.render name (.ok context))).answer = .text (.ok output) →
      Obtains session path (.render name (.ok context))
  | faulty {name : String} {context : Value} {fault : RenderFault} :
      Path.key (session.normalize name) = Path.key path →
      (session.perform (.render name (.ok context))).answer = .text (.error (.render fault)) →
      Obtains session path (.render name (.ok context))
  | inserted {other : String} {nodes : List Node} : Path.key other = Path.key path →
      Obtains session path (.cacheInsert other nodes)

variable {session : Session} {cache cache' : Cache} {path name : String} {nodes : List Node}

/-! ### Asking for a template -/

/-- A template that is kept is given without a look at the store. -/
theorem resolve_of_get? (hcache : session.cache = some cache)
    (hget : cache.get? (session.normalize name) = some nodes) :
    session.resolve name = (pure nodes, session) := by
  have hkept : (session.cache.bind fun cache => cache.get? (session.normalize name)) =
      some nodes := by
    rw [hcache]
    exact hget
  simp only [Session.resolve, hkept]

/-- **What is asked for is kept**, if it can be composed, and nothing else in the
session changes. -/
theorem resolve_kept (hcache : session.cache = some cache) (name : String) :
    ∃ cache', (session.resolve name).2 = { session with cache := some cache' } ∧
      match (session.resolve name).1.result with
      | .ok nodes => cache'.get? (session.normalize name) = some nodes ∧
          ∀ other, Path.key other ≠ Path.key (session.normalize name) →
            cache'.get? other = cache.get? other
      | .error _ => cache' = cache := by
  have hsession : session = { session with cache := some cache } := by rw [← hcache]
  cases hget : cache.get? (session.normalize name) with
  | some nodes =>
    rw [resolve_of_get? hcache hget]
    exact ⟨cache, hsession, hget, fun _ _ => rfl⟩
  | none =>
    have hkept : (session.cache.bind fun cache => cache.get? (session.normalize name)) = none := by
      rw [hcache]
      exact hget
    simp only [Session.resolve, hkept]
    -- The template is composed, and this decides whether it is kept.
    split
    · rename_i nodes found hnodes hfound
      obtain rfl : found = cache := Option.some.inj (hfound.symm.trans hcache)
      rw [hnodes]
      refine ⟨found.insert (session.normalize name) nodes, rfl, ?_, ?_⟩
      · exact Cache.get?_insert_self found rfl nodes
      · exact fun other hother => Cache.get?_insert_of_ne found hother nodes
    · rename_i hfailed
      refine ⟨cache, hsession, ?_⟩
      split
      · rename_i nodes hnodes
        exact absurd hcache (hfailed nodes cache hnodes)
      · rfl

/-- A path is in the cache behind a template that was asked for if it was there
before, or if it is the path of that template and the template could be composed. -/
theorem contains_resolve_iff (hcache : session.cache = some cache)
    (hcache' : (session.resolve name).2.cache = some cache') :
    cache'.contains path ↔
      (Path.key (session.normalize name) = Path.key path ∧
        ∃ nodes, (session.resolve name).1.result = .ok nodes) ∨ cache.contains path := by
  obtain ⟨kept, hsession, hkept⟩ := resolve_kept hcache name
  rw [hsession] at hcache'
  obtain rfl : kept = cache' := Option.some.inj hcache'
  rw [Cache.contains_iff, Cache.contains_iff]
  cases hresult : (session.resolve name).1.result with
  | error error =>
    rw [hresult] at hkept
    obtain rfl : kept = cache := hkept
    simp
  | ok nodes =>
    rw [hresult] at hkept
    obtain ⟨hself, hother⟩ := hkept
    by_cases hpath : Path.key path = Path.key (session.normalize name)
    · simp [Cache.get?_congr hpath, hself, hpath]
    · simp [hother path hpath, Ne.symm hpath]

/-- The answer to a question for a template tells whether it could be composed. -/
theorem obtains_resolve_iff :
    session.Obtains path (.resolve name) ↔ Path.key (session.normalize name) = Path.key path ∧
      ∃ nodes, (session.resolve name).1.result = .ok nodes := by
  have hanswer : (session.perform (.resolve name)).answer =
      .nodes ((session.resolve name).1.result.mapError .compose) := rfl
  constructor
  · intro h
    cases h with
    | resolved hpath hnodes =>
      refine ⟨hpath, ?_⟩
      rw [hanswer] at hnodes
      cases hresult : (session.resolve name).1.result with
      | ok nodes => exact ⟨nodes, rfl⟩
      | error error =>
        rw [hresult] at hnodes
        cases hnodes
  · rintro ⟨hpath, nodes, hresult⟩
    have hnodes : (session.perform (.resolve name)).answer = .nodes (.ok nodes) := by
      rw [hanswer, hresult]
      rfl
    exact .resolved hpath hnodes

/-- The answer to a rendering tells whether the template could be composed. -/
theorem obtains_render_iff {context : Value} :
    session.Obtains path (.render name (.ok context)) ↔
      Path.key (session.normalize name) = Path.key path ∧
        ∃ nodes, (session.resolve name).1.result = .ok nodes := by
  have hanswer : (session.perform (.render name (.ok context))).answer =
      .text ((session.resolve name).2.finish context (session.resolve name).1.result) := rfl
  cases hresult : (session.resolve name).1.result with
  | error error =>
    rw [hresult] at hanswer
    constructor
    · intro h
      cases h with
      | rendered _ htext =>
        rw [hanswer] at htext
        cases htext
      | faulty _ hfault =>
        rw [hanswer] at hfault
        cases hfault
    · rintro ⟨-, nodes, hnodes⟩
      cases hnodes
  | ok nodes =>
    rw [hresult] at hanswer
    constructor
    · intro h
      cases h with
      | rendered hpath | faulty hpath => exact ⟨hpath, nodes, rfl⟩
    · rintro ⟨hpath, -⟩
      -- What is composed is rendered, and the text or the fault is the answer.
      cases htext : Stencil.render ((session.resolve name).2.setting context) storedDepth nodes with
      | ok output =>
        have hgiven : (session.perform (.render name (.ok context))).answer =
            .text (.ok output) := by
          rw [hanswer, finish, Setting.finish, htext]
          rfl
        exact .rendered hpath hgiven
      | error fault =>
        have hgiven : (session.perform (.render name (.ok context))).answer =
            .text (.error (.render fault)) := by
          rw [hanswer, finish, Setting.finish, htext]
          rfl
        exact .faulty hpath hgiven

/-! ### One operation -/

theorem cache_withCache {change : Cache → Answer × Cache}
    (h : (session.withCache change).session.cache = some cache') :
    ∃ cache, session.cache = some cache ∧ cache' = (change cache).2 := by
  unfold withCache at h
  cases hcache : session.cache with
  | none =>
    rw [hcache] at h
    exact absurd (hcache.symm.trans h) (by simp)
  | some cache =>
    rw [hcache] at h
    exact ⟨cache, rfl, (Option.some.inj h).symm⟩

/-- An operation on names asks for a template. -/
theorem cache_resolve (h : (session.resolve name).2.cache = some cache') :
    ∃ cache, session.cache = some cache := by
  cases hcache : session.cache with
  | some cache => exact ⟨cache, rfl⟩
  | none =>
    have hsession : (session.resolve name).2 = session := by
      simp [Session.resolve, hcache]
    rw [hsession, hcache] at h
    cases h

/-- **One operation.**  A path is in the cache behind an operation exactly if the
operation came to its template, or if it was there and was not dropped. -/
theorem contains_perform_iff {operation : Operation}
    (h : (session.perform operation).session.cache = some cache') :
    cache'.contains path ↔ session.Obtains path operation ∨
      (∃ cache, session.cache = some cache ∧ cache.contains path) ∧ ¬ operation.Drops path := by
  -- An operation that leaves the cache alone and comes to no template.
  have hsame (hcache : session.cache = some cache') (hobtains : ¬ session.Obtains path operation)
      (hdrops : ¬ operation.Drops path) :
      cache'.contains path ↔ session.Obtains path operation ∨
        (∃ cache, session.cache = some cache ∧ cache.contains path) ∧
          ¬ operation.Drops path := by
    simp [hobtains, hdrops, hcache]
  cases operation with
  | put | delete | fault | store | resolveInline => exact hsame h (by rintro ⟨⟩) id
  | renderInline bytes label context =>
    cases context with
    | error | ok => exact hsame h (by rintro ⟨⟩) id
  | render name context =>
    cases context with
    | error message => exact hsame h (by rintro ⟨⟩) id
    | ok context =>
      obtain ⟨cache, hcache⟩ := cache_resolve h
      rw [contains_resolve_iff hcache h, obtains_render_iff]
      simp [hcache, Operation.Drops]
  | resolve name =>
    obtain ⟨cache, hcache⟩ := cache_resolve h
    rw [contains_resolve_iff hcache h, obtains_resolve_iff]
    simp [hcache, Operation.Drops]
  | setCaching on =>
    -- A new cache is empty.
    have hobtains : ¬ session.Obtains path (.setCaching on) := by rintro ⟨⟩
    have hempty : ¬ cache'.contains path := by
      cases on with
      | false => cases h
      | true =>
        cases h
        exact Cache.not_contains_empty path
    simp [hobtains, hempty, Operation.Drops]
  | cacheGet other | cacheContains other =>
    obtain ⟨cache, hcache, rfl⟩ := cache_withCache h
    exact hsame hcache (by rintro ⟨⟩) id
  | cacheRemove other =>
    obtain ⟨cache, hcache, rfl⟩ := cache_withCache h
    have hobtains : ¬ session.Obtains path (.cacheRemove other) := by rintro ⟨⟩
    rw [Cache.contains_remove_iff]
    simp [hobtains, hcache, Operation.Drops]
  | cacheClear =>
    obtain ⟨cache, hcache, rfl⟩ := cache_withCache h
    have hobtains : ¬ session.Obtains path .cacheClear := by rintro ⟨⟩
    simp [hobtains, Cache.not_contains_empty, Operation.Drops]
  | cacheInsert other nodes =>
    obtain ⟨cache, hcache, rfl⟩ := cache_withCache h
    have hobtains : session.Obtains path (.cacheInsert other nodes) ↔
        Path.key other = Path.key path := by
      constructor
      · rintro ⟨⟩
        assumption
      · exact .inserted
    rw [Cache.contains_insert_iff, hobtains]
    simp [hcache, Operation.Drops]

/-- Only new settings bring a cache. -/
theorem drops_of_cache_eq_none {operation : Operation} (hnone : session.cache = none)
    (h : (session.perform operation).session.cache = some cache') : operation.Drops path := by
  have hsame (hcache : session.cache = some cache') : operation.Drops path := by
    rw [hnone] at hcache
    cases hcache
  have hresolve {name : String} (hcache : (session.resolve name).2.cache = some cache') :
      operation.Drops path := by
    obtain ⟨cache, hcache⟩ := cache_resolve hcache
    rw [hnone] at hcache
    cases hcache
  have hwith {change : Cache → Answer × Cache}
      (hcache : (session.withCache change).session.cache = some cache') :
      operation.Drops path := by
    obtain ⟨cache, hcache, -⟩ := cache_withCache hcache
    rw [hnone] at hcache
    cases hcache
  cases operation with
  | setCaching | cacheClear => trivial
  | put | delete | fault | store | resolveInline => exact hsame h
  | render name context =>
    cases context with
    | error message => exact hsame h
    | ok context => exact hresolve h
  | renderInline bytes label context =>
    cases context with
    | error | ok => exact hsame h
  | resolve name => exact hresolve h
  | cacheGet | cacheContains | cacheRemove | cacheInsert => exact hwith h

/-- A template that is kept stays as it is, unless an operation alters its path. -/
theorem get?_perform {operation : Operation} (hcache : session.cache = some cache)
    (hget : cache.get? path = some nodes) (hoperation : ¬ operation.Alters path) :
    ∃ cache', (session.perform operation).session.cache = some cache' ∧
      cache'.get? path = some nodes := by
  -- Asking for any template, the one that is kept included.
  have hresolve (name : String) : ∃ cache', (session.resolve name).2.cache = some cache' ∧
      cache'.get? path = some nodes := by
    by_cases hpath : Path.key path = Path.key (session.normalize name)
    · rw [Cache.get?_congr hpath] at hget
      rw [resolve_of_get? hcache hget]
      exact ⟨cache, hcache, (Cache.get?_congr hpath).trans hget⟩
    · obtain ⟨cache', hsession, hkept⟩ := resolve_kept hcache name
      refine ⟨cache', by rw [hsession], ?_⟩
      split at hkept
      · rw [hkept.2 path hpath, hget]
      · rw [hkept, hget]
  have hwith (change : Cache → Answer × Cache) :
      (session.withCache change).session.cache = some (change cache).2 := by
    rw [withCache, hcache]
  cases operation with
  | put | delete | fault | store | resolveInline => exact ⟨cache, hcache, hget⟩
  | renderInline bytes label context =>
    cases context with
    | error | ok => exact ⟨cache, hcache, hget⟩
  | render name context =>
    cases context with
    | error message => exact ⟨cache, hcache, hget⟩
    | ok context => exact hresolve name
  | resolve name => exact hresolve name
  | cacheGet | cacheContains => exact ⟨cache, hwith _, hget⟩
  | setCaching | cacheClear => exact absurd trivial hoperation
  | cacheRemove other =>
    exact ⟨_, hwith _, (Cache.get?_remove_of_ne (Ne.symm hoperation)).trans hget⟩
  | cacheInsert other found =>
    exact ⟨_, hwith _, (Cache.get?_insert_of_ne cache (Ne.symm hoperation) found).trans hget⟩

/-- No operation changes how names become paths. -/
theorem normalize_perform (operation : Operation) (name : String) :
    (session.perform operation).session.normalize name = session.normalize name := by
  have hresolve (other : String) :
      (session.resolve other).2.normalize name = session.normalize name := by
    unfold Session.resolve
    dsimp only
    split
    · rfl
    · split <;> rfl
  have hwith (change : Cache → Answer × Cache) :
      (session.withCache change).session.normalize name = session.normalize name := by
    unfold withCache
    split <;> rfl
  cases operation with
  | put | delete | fault | store | resolveInline | setCaching => rfl
  | render other context =>
    cases context with
    | error message => rfl
    | ok context => exact hresolve other
  | renderInline bytes label context => cases context <;> rfl
  | resolve other => exact hresolve other
  | cacheGet | cacheContains | cacheClear | cacheRemove | cacheInsert => exact hwith _

/-! ### Runs -/

theorem after_append (session : Session) (operations : List Operation) (operation : Operation) :
    session.after (operations ++ [operation]) =
      ((session.after operations).perform operation).session := by
  rw [after, List.foldl_append]
  rfl

/-- Some operation came to the template of a path, and none behind it dropped it. -/
def Keeps (session : Session) (operations : List Operation) (path : String) : Prop :=
  ∃ before operation later, operations = before ++ operation :: later ∧
    (session.after before).Obtains path operation ∧ ∀ next ∈ later, ¬ next.Drops path

/-- The last operation comes to the template, or it keeps what was kept. -/
theorem keeps_append_iff {operations : List Operation} {operation : Operation} :
    session.Keeps (operations ++ [operation]) path ↔
      (session.after operations).Obtains path operation ∨
        session.Keeps operations path ∧ ¬ operation.Drops path := by
  constructor
  · rintro ⟨before, last, later, hsplit, hobtains, hlater⟩
    rcases List.eq_nil_or_concat later with rfl | ⟨later, next, rfl⟩
    · obtain ⟨rfl, hlast⟩ := List.append_inj' hsplit rfl
      cases hlast
      exact .inl hobtains
    · rw [List.concat_eq_append] at hsplit hlater
      rw [← List.cons_append, ← List.append_assoc] at hsplit
      obtain ⟨rfl, hlast⟩ := List.append_inj' hsplit rfl
      cases hlast
      refine .inr ⟨⟨before, last, later, rfl, hobtains, ?_⟩, ?_⟩
      · exact fun next hnext => hlater next (List.mem_append_left _ hnext)
      · exact hlater operation (List.mem_append_right _ (List.mem_singleton_self _))
  · rintro (hobtains | ⟨⟨before, last, later, rfl, hobtains, hlater⟩, hoperation⟩)
    · exact ⟨operations, operation, [], rfl, hobtains, by simp⟩
    · refine ⟨before, last, later ++ [operation], by simp, hobtains, ?_⟩
      rw [List.forall_mem_append, List.forall_mem_singleton]
      exact ⟨hlater, hoperation⟩

/-- **A run.**  In a session that starts with nothing in its cache, a path is there
exactly if some operation came to its template and none behind it dropped it. -/
theorem contains_after_iff (hstart : ∀ cache, session.cache = some cache → cache = .empty)
    (operations : List Operation) {cache : Cache}
    (hcache : (session.after operations).cache = some cache) :
    cache.contains path ↔ session.Keeps operations path := by
  induction operations using List.reverseRecOn generalizing cache with
  | nil =>
    have hnone : ¬ session.Keeps [] path := by
      rintro ⟨before, operation, later, hsplit, -⟩
      exact absurd (congrArg List.length hsplit) (by simp)
    rw [hstart cache hcache]
    exact iff_of_false (Cache.not_contains_empty path) hnone
  | append_singleton operations operation ih =>
    rw [after_append] at hcache
    rw [contains_perform_iff hcache, keeps_append_iff]
    cases hbefore : (session.after operations).cache with
    | none =>
      -- The cache is new, so nothing that was kept counts any more.
      have hdrops : operation.Drops path := drops_of_cache_eq_none hbefore hcache
      simp [hdrops]
    | some cache => simp [ih hbefore]

theorem normalize_after (operations : List Operation) (name : String) :
    (session.after operations).normalize name = session.normalize name := by
  induction operations using List.reverseRecOn with
  | nil => rfl
  | append_singleton operations operation ih => rw [after_append, normalize_perform, ih]

/-- A template that is kept stays as it is, as long as no operation alters its path. -/
theorem get?_after (hcache : session.cache = some cache) (hget : cache.get? path = some nodes)
    {operations : List Operation} (h : ∀ operation ∈ operations, ¬ operation.Alters path) :
    ∃ cache', (session.after operations).cache = some cache' ∧
      cache'.get? path = some nodes := by
  induction operations using List.reverseRecOn with
  | nil => exact ⟨cache, hcache, hget⟩
  | append_singleton operations operation ih =>
    rw [List.forall_mem_append, List.forall_mem_singleton] at h
    obtain ⟨cache', hcache', hget'⟩ := ih h.1
    rw [after_append]
    exact get?_perform hcache' hget' h.2

/-- **A template that was given is given again**, without a look at the store, as long
as no operation alters its path. -/
theorem perform_resolve_after (hcaching : session.isCaching)
    (hanswer : (session.perform (.resolve name)).answer = .nodes (.ok nodes))
    {later : List Operation} (hlater : ∀ next ∈ later, ¬ next.Alters (session.normalize name))
    {again : String} (hagain : Path.key (session.normalize again) =
      Path.key (session.normalize name)) :
    let reply := ((session.perform (.resolve name)).session.after later).perform (.resolve again)
    reply.answer = .nodes (.ok nodes) ∧ reply.accesses = [] := by
  obtain ⟨cache, hcache⟩ := Option.isSome_iff_exists.1 hcaching
  have hresult : (session.resolve name).1.result = .ok nodes := by
    have hnodes : Answer.nodes ((session.resolve name).1.result.mapError .compose) =
        .nodes (.ok nodes) := hanswer
    cases hfound : (session.resolve name).1.result with
    | error error =>
      rw [hfound] at hnodes
      cases hnodes
    | ok found =>
      rw [hfound] at hnodes
      cases hnodes
      rfl
  -- The template is in the cache behind the first question, and at the second.
  obtain ⟨kept, hsession, hkept⟩ := resolve_kept hcache name
  rw [hresult] at hkept
  have hafter : (session.perform (.resolve name)).session.cache = some kept := by
    change (session.resolve name).2.cache = some kept
    rw [hsession]
  obtain ⟨cache', hcache', hget⟩ := get?_after hafter hkept.1 hlater
  have hnormalize : ((session.perform (.resolve name)).session.after later).normalize again =
      session.normalize again := by
    rw [normalize_after, normalize_perform]
  have hfound : cache'.get?
      (((session.perform (.resolve name)).session.after later).normalize again) = some nodes := by
    rw [hnormalize, Cache.get?_congr hagain, hget]
  have hresolve := resolve_of_get? hcache' hfound
  intro reply
  constructor
  · change Answer.nodes ((((session.perform (.resolve name)).session.after later).resolve
      again).1.result.mapError .compose) = _
    rw [hresolve]
    rfl
  · change (((session.perform (.resolve name)).session.after later).resolve again).1.accesses = _
    rw [hresolve]
    rfl

/-- **The cache is a snapshot** of what a session has composed, whatever happens to the
templates meanwhile.  The paths in it are those whose template some operation came to, or put
there, unless a later operation dropped them; no other operation adds a path; and a template
that was given is given again without loading or parsing anything, until its path is altered. -/
theorem after_snapshot (settings : Settings) (library : Library) (tags : Registry)
    (host : HostNode → Value → Except String String) (storage : Storage)
    (operations : List Operation) :
    let fresh := start settings library tags host storage
    let session := fresh.after operations
    (∀ cache, session.cache = some cache → ∀ path,
      cache.contains path ↔ fresh.Keeps operations path) ∧
    (∀ operation cache', (session.perform operation).session.cache = some cache' → ∀ path,
      cache'.contains path → ¬ session.Obtains path operation →
        ∃ cache, session.cache = some cache ∧ cache.contains path) ∧
    ∀ name nodes, session.isCaching →
      (session.perform (.resolve name)).answer = .nodes (.ok nodes) →
      ∀ later : List Operation, (∀ next ∈ later, ¬ next.Alters (session.normalize name)) →
      ∀ again, Path.key (session.normalize again) = Path.key (session.normalize name) →
        let reply :=
          ((session.perform (.resolve name)).session.after later).perform (.resolve again)
        reply.answer = .nodes (.ok nodes) ∧ reply.accesses = [] := by
  intro fresh session
  have hstart : ∀ cache, fresh.cache = some cache → cache = .empty := by
    intro cache hcache
    change (if settings.caching then some Cache.empty else none) = some cache at hcache
    split at hcache
    · exact (Option.some.inj hcache).symm
    · cases hcache
  refine ⟨fun cache hcache path => contains_after_iff hstart operations hcache, ?_, ?_⟩
  · intro operation cache' hcache' path hpath hobtains
    rcases (contains_perform_iff hcache').1 hpath with h | h
    · exact absurd h hobtains
    · exact h.1
  · intro name nodes hcaching hanswer later hlater again hagain
    exact perform_resolve_after hcaching hanswer hlater hagain

/-- A template that is replaced in the store, and then made to fail.  It is given as it was
when it was asked for first, under another spelling of its name. -/
theorem after_snapshot_replaced :
    let session : Session :=
      start ⟨"v", "", true⟩ ⟨[("v/a", "x".toUTF8)], []⟩ .empty (fun _ _ => .ok "") .empty
    let nodes : List Node := [.raw ⟨"v/a", 1, 1, 0, 1⟩ "x"]
    let later : List Operation := [.put "v/a" "y".toUTF8, .fault "v/a" .missing, .resolve "b"]
    let reply := ((session.perform (.resolve "a")).session.after later).perform (.resolve "./a")
    (session.perform (.resolve "a")).answer = .nodes (.ok nodes) ∧
      (∀ next ∈ later, ¬ next.Alters (session.normalize "a")) ∧
      Path.key (session.normalize "./a") = Path.key (session.normalize "a") ∧
      reply.answer = .nodes (.ok nodes) ∧ reply.accesses = [] := by
  intro session nodes later reply
  have hanswer : (session.perform (.resolve "a")).answer = .nodes (.ok nodes) := by cbv
  have hlater : ∀ next ∈ later, ¬ next.Alters (session.normalize "a") := by
    simp [later, Operation.Alters]
  have hpath : Path.key (session.normalize "./a") = Path.key (session.normalize "a") := by
    decide +kernel
  obtain ⟨-, -, hgiven⟩ := after_snapshot ⟨"v", "", true⟩ ⟨[("v/a", "x".toUTF8)], []⟩ .empty
    (fun _ _ => .ok "") .empty []
  exact ⟨hanswer, hlater, hpath, hgiven "a" nodes rfl hanswer later hlater "./a" hpath⟩

end Session

end Stencil
