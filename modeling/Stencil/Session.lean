/-
Rendering over time.

A `Session` holds what lasts between renderings: the settings, the templates,
the values for tags, and the cache of composed templates.  `Session.perform`
carries out one `Operation`, and gives an answer, the session behind it and the
accesses that the operation made.

## Design notes

Only the composition of a template that is asked for by name goes through the
cache.  It is kept once it has succeeded, whether or not rendering it succeeds
then.  The templates that it extends are not kept for themselves.
-/
import Stencil.Library
import Stencil.Render
import Stencil.Session.Cache
import Stencil.Session.Error
import Stencil.Settings
import Stencil.Value.Encode

namespace Stencil

/-- The label of templates that are given as text and have none. -/
def inlineLabel : String := "inline-template"

/-- How deep the nodes in values may be nested, which is deeper than memory allows. -/
def storedDepth : Nat := 1000000000

/-- The text of a composed template, or why there is none. -/
def Setting.finish (setting : Setting) (composed : Except ComposeError (List Node)) :
    Except RenderError String :=
  match composed with
  | .error error => .error (.compose error)
  | .ok nodes => (Stencil.render setting storedDepth nodes).mapError .render

/-- What lasts between renderings. -/
structure Session where
  settings : Settings
  cache : Option Cache
  library : Library
  tags : Registry
  host : HostNode → Value → Except String String
  storage : Storage

/-- What can happen in a session.  The first four are moves of what is around it: the
store of templates changes, or a value for tags does.  The others are asked of the
session, where a context is the root value, or the message that says why there is
none. -/
inductive Operation where
  | put (path : String) (bytes : ByteArray)
  | delete (path : String)
  | fault (path : String) (error : LoadError)
  | store (key : String) (value : Value)
  | render (name : String) (context : Except String Value)
  | renderInline (bytes : ByteArray) (label : Option String) (context : Except String Value)
  | resolve (name : String)
  | resolveInline (bytes : ByteArray) (label : Option String)
  | setCaching (on : Bool)
  | cacheGet (path : String)
  | cacheRemove (path : String)
  | cacheContains (path : String)
  | cacheClear
  | cacheInsert (path : String) (nodes : List Node)

/-- What a session answers. -/
inductive Answer where
  | done
  | text (result : Except RenderError String)
  | nodes (result : Except RenderError (List Node))
  | kept (nodes : Option (List Node))
  | truth (value : Bool)
  /-- There is no cache. -/
  | noCache

/-- An answer, the session behind it, and the accesses made for it. -/
structure Reply where
  answer : Answer
  session : Session
  accesses : List Access

namespace Session

/-- A session with a cache if the settings ask for one. -/
def start (settings : Settings) (library : Library) (tags : Registry)
    (host : HostNode → Value → Except String String) (storage : Storage) : Session :=
  { settings, library, tags, host, storage
    cache := if settings.caching then some Cache.empty else none }

/-- Where the session finds templates. -/
def sources (session : Session) : Sources := session.library.sources session.settings.rule

/-- How deep extends can be nested. -/
def depth (session : Session) (nodes : List Node) : Nat :=
  session.library.depth session.settings.rule nodes

/-- The path of a name. -/
def normalize (session : Session) (name : String) : String :=
  session.settings.rule.normalize name

/-- Whether composed templates are kept. -/
def isCaching (session : Session) : Bool := session.cache.isSome

/-- The composed template of a name, from the cache if it is there. -/
def resolve (session : Session) (name : String) : Traced (List Node) × Session :=
  let path := session.normalize name
  match session.cache.bind fun cache => cache.get? path with
  | some nodes => (pure nodes, session)
  | none =>
    let built := composePath session.sources session.depth path
    match built.result, session.cache with
    | .ok nodes, some cache => (built, { session with cache := some (cache.insert path nodes) })
    | _, _ => (built, session)

/-- The composed form of a template that is given as bytes. -/
def resolveInline (session : Session) (bytes : ByteArray) (label : Option String) :
    Traced (List Node) :=
  composeInline session.sources session.depth bytes (label.getD inlineLabel)

/-- What rendering for a context depends on. -/
def setting (session : Session) (context : Value) : Setting :=
  ⟨session.tags, session.host, context, session.storage⟩

/-- The text of a composed template, or why there is none. -/
def finish (session : Session) (context : Value) (composed : Except ComposeError (List Node)) :
    Except RenderError String :=
  (session.setting context).finish composed

/-- Answer a question to the cache, if there is one. -/
def withCache (session : Session) (f : Cache → Answer × Cache) : Reply :=
  match session.cache with
  | none => ⟨.noCache, session, []⟩
  | some cache => ⟨(f cache).1, { session with cache := some (f cache).2 }, []⟩

/-- Carry out an operation. -/
def perform (session : Session) : Operation → Reply
  | .put path bytes => ⟨.done, { session with library := session.library.put path bytes }, []⟩
  | .delete path => ⟨.done, { session with library := session.library.delete path }, []⟩
  | .fault path error =>
    ⟨.done, { session with library := session.library.fault path error }, []⟩
  | .store key value =>
    ⟨.done, { session with storage := session.storage.insert key (.data value) }, []⟩
  | .render name context =>
    match context with
    | .error message => ⟨.text (.error (.encoding message)), session, []⟩
    | .ok context =>
      let (composed, session) := session.resolve name
      ⟨.text (session.finish context composed.result), session, composed.accesses⟩
  | .renderInline bytes label context =>
    match context with
    | .error message => ⟨.text (.error (.encoding message)), session, []⟩
    | .ok context =>
      let composed := session.resolveInline bytes label
      ⟨.text (session.finish context composed.result), session, composed.accesses⟩
  | .resolve name =>
    let (composed, session) := session.resolve name
    ⟨.nodes (composed.result.mapError .compose), session, composed.accesses⟩
  | .resolveInline bytes label =>
    let composed := session.resolveInline bytes label
    ⟨.nodes (composed.result.mapError .compose), session, composed.accesses⟩
  | .setCaching on =>
    ⟨.done, { session with
      settings := { session.settings with caching := on }
      cache := if on then some Cache.empty else none }, []⟩
  | .cacheGet path => session.withCache fun cache => (.kept (cache.get? path), cache)
  | .cacheRemove path =>
    session.withCache fun cache => (.kept (cache.get? path), cache.remove path)
  | .cacheContains path => session.withCache fun cache => (.truth (cache.contains path), cache)
  | .cacheClear => session.withCache fun _ => (.truth true, Cache.empty)
  | .cacheInsert path nodes =>
    session.withCache fun cache =>
      let cache := cache.insert path nodes
      (.truth cache.isEmpty, cache)

/-- Carry out operations one after the other. -/
def run (session : Session) : List Operation → List Reply
  | [] => []
  | operation :: operations =>
    let reply := session.perform operation
    reply :: reply.session.run operations

end Session

end Stencil
