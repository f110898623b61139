import Arbiter.Cache
import Arbiter.Evaluation
import Arbiter.File
import Arbiter.Format.Text
import Arbiter.Settings.Basic
import Arbiter.Store
import Arbiter.Telemetry

namespace Arbiter

structure Engine where
  settings : Settings
  target : Matcher := .byValue
  condition : Matcher := .byValue
  finder : Option Finder := none
  store : Store := {}
  cache : Option Cache := none
  telemetry : Option Telemetry := none

/-- When an evaluation starts, in milliseconds of the clock, and how long it takes. -/
structure Timing where
  now : Nat := 0
  elapsedMs : Binary64 := .zero

/-- A response, with what the attribute finder was asked for on the way. -/
structure Answer where
  response : Response
  lookups : List Designator := []

namespace Engine

/-- What a finder answers may change, so with one nothing is cached. -/
def cacheFor (s : CacheSettings) (finder : Option Finder) : Option Cache :=
  if s.enabled && finder.isNone then some (.ofCapacity s.maxEntries (s.ttlSeconds * 1000)) else none

def ofSettings (s : Settings) (target condition : Matcher) (finder : Option Finder) :
    Except Error Engine :=
  match s.flaw? with
  | some f => .error f.error
  | none =>
    .ok {
      settings := s, target, condition, finder
      cache := cacheFor s.cache finder
      telemetry := if s.telemetry.enabled then some { settings := s.telemetry } else none }

def clearCache (e : Engine) : Engine := { e with cache := e.cache.map (·.clear) }

def countError (e : Engine) : Engine := { e with telemetry := e.telemetry.map (·.recordError) }

def recordLookup (e : Engine) (hit : Bool) : Engine :=
  { e with telemetry := e.telemetry.map (·.recordLookup hit) }

def recordEvaluation (e : Engine) (r : Response) : Engine :=
  { e with telemetry := e.telemetry.map (·.recordEvaluation r.decision r.evaluationTimeMs) }

def scene (e : Engine) (r : Request) : Scene where
  matching := ⟨⟨r, e.finder⟩, e.target, e.condition⟩
  resolve := e.store.get?
  respectAbandoned := e.settings.engine.respectAbandoned

/-- The decision on a request, and the state it leaves. The root algorithm combines the candidates. -/
def decide (e : Engine) (r : Request) : Decision × Context :=
  (e.scene r).combineNodes e.settings.engine.rootAlgorithm (some (e.store.candidates.map some))
    { maxReferenceDepth := e.settings.engine.maxReferenceDepth }

/-- Answers from the policies, and keeps the answer where there is a cache. -/
def compute (e : Engine) (t : Timing) (r : Request) : Answer × Engine :=
  let (d, ctx) := e.decide r
  let response := { Response.ofContext r.id d ctx with evaluationTimeMs := t.elapsedMs }
  let cache := e.cache.map fun c => c.put t.now r e.store.generation response
  (⟨response, ctx.lookups⟩, { e with cache }.recordEvaluation response)

/-- Answers from the cache if it can. -/
def evaluate (e : Engine) (t : Timing) (r : Request) : Answer × Engine :=
  match e.cache with
  | none => e.compute t r
  | some c =>
    match c.get t.now r e.store.generation with
    | (some response, c) =>
      let response := { response with cached := true, evaluationTimeMs := t.elapsedMs }
      (⟨response, []⟩, ({ e with cache := some c }.recordLookup true).recordEvaluation response)
    | (none, c) => ({ e with cache := some c }.recordLookup false).compute t r

def loadDocument (e : Engine) (d : Document) : Except Error (List String) × Engine :=
  match e.store.load d with
  | (.error i, store) => (.error i.error, { e with store }.countError)
  | (.ok _, store) => (.ok (d.policies.map (·.id)), { e with store }.clearCache)

/-- Loads a document that was read, or counts the failure to read it. -/
def loadRead (e : Engine) (d : Except Error Document) : Except Error (List String) × Engine :=
  match d with
  | .error err => (.error err, e.countError)
  | .ok d => e.loadDocument d

def loadJson (e : Engine) (text : String) : Except Error (List String) × Engine :=
  e.loadRead (Document.ofJsonText text)

def loadYaml (e : Engine) (text : String) : Except Error (List String) × Engine :=
  e.loadRead (Document.ofYamlText text)

def loadFile (e : Engine) (f : File) : Except Error (List String) × Engine :=
  match f.text with
  | none => e.loadRead (.error (.io "the file cannot be read"))
  | some text => e.loadRead (Document.ofText f.extension text)

def loadPolicy (e : Engine) (n : Node) : Except Error String × Engine :=
  match e.store.insert n with
  | .error i => (.error i.error, e.countError)
  | .ok store => (.ok n.id, { e with store }.clearCache)

def unloadPolicy (e : Engine) (id : String) : Except Error Unit × Engine :=
  match e.store.remove? id with
  | none => (.error (Invalid.notFound id).error, e.countError)
  | some (_, store) => (.ok (), { e with store }.clearCache)

/-- What a decision point is built from. -/
structure Setup where
  settings : Settings := {}
  target : Matcher := .byValue
  condition : Matcher := .byValue
  finder : Option Finder := none
  telemetryEnabled : Option Bool := none
  cacheEnabled : Option Bool := none
  cacheSize : Option Nat := none
  policies : List Node := []
  documents : List Document := []
  files : List File := []

/-- The settings with what overrides them. -/
def Setup.effective (s : Setup) : Settings where
  engine := s.settings.engine
  cache :=
    { s.settings.cache with
      enabled := s.cacheEnabled.getD s.settings.cache.enabled
      maxEntries := s.cacheSize.getD s.settings.cache.maxEntries }
  telemetry :=
    { s.settings.telemetry with enabled := s.telemetryEnabled.getD s.settings.telemetry.enabled }

/-- Loads all, or fails with the first failure. -/
def loadAll (load : Engine → α → Except Error β × Engine) : List α → Engine → Except Error Engine
  | [], e => .ok e
  | x :: xs, e =>
    match load e x with
    | (.error err, _) => .error err
    | (.ok _, e) => loadAll load xs e

def build (s : Setup) : Except Error Engine := do
  let e ← ofSettings s.effective s.target s.condition s.finder
  let e ← loadAll loadPolicy s.policies e
  let e ← loadAll loadDocument s.documents e
  loadAll loadFile s.files e

end Engine

end Arbiter
