import Arbiter.Engine

namespace Arbiter

/-- A change made to the store itself. -/
inductive StoreOperation where
  | insert (n : Node)
  | insertDocument (d : Document)
  | remove (id : String)
  | clear

inductive Operation where
  | evaluate (r : Request)
  | loadPolicy (n : Node)
  /-- Loads a document, or fails for one that could not be read. -/
  | load (d : Except Error Document)
  | unloadPolicy (id : String)
  | clearCache
  | onStore (o : StoreOperation)

/-- What an operation returns. -/
inductive Reply where
  | answered (r : Response)
  | loaded (ids : Except Error (List String))
  | loadedPolicy (id : Except Error String)
  | inserted (count : Except Error Nat)
  | removed (n : Option Node)
  | finished (r : Except Error Unit)

/-- Whether an operation came to nothing. -/
def Reply.failed : Reply → Bool
  | .answered _ => false
  | .loaded ids => !ids.isOk
  | .loadedPolicy id => !id.isOk
  | .inserted count => !count.isOk
  | .removed n => n.isNone
  | .finished r => !r.isOk

/-- The document in a file, if it can be read. -/
def File.document (f : File) : Except Error Document :=
  match f.text with
  | none => .error (.io "the file cannot be read")
  | some text => Document.ofText f.extension text

namespace Store

def perform (s : Store) : StoreOperation → Reply × Store
  | .insert n =>
    match s.insert n with
    | .error i => (.finished (.error i.error), s)
    | .ok s' => (.finished (.ok ()), s')
  | .insertDocument d =>
    match s.load d with
    | (.error i, s') => (.inserted (.error i.error), s')
    | (.ok count, s') => (.inserted (.ok count), s')
  | .remove id =>
    match s.remove? id with
    | none => (.removed none, s)
    | some (n, s') => (.removed (some n), s')
  | .clear => (.finished (.ok ()), s.clear)

end Store

namespace Engine

def perform (t : Timing) (e : Engine) : Operation → Reply × Engine
  | .evaluate r =>
    let (a, e) := e.evaluate t r
    (.answered a.response, e)
  | .loadPolicy n =>
    let (x, e) := e.loadPolicy n
    (.loadedPolicy x, e)
  | .load d =>
    let (x, e) := e.loadRead d
    (.loaded x, e)
  | .unloadPolicy id =>
    let (x, e) := e.unloadPolicy id
    (.finished x, e)
  | .clearCache => (.finished (.ok ()), e.clearCache)
  | .onStore o =>
    let (x, store) := e.store.perform o
    (x, { e with store })

/-- The replies to operations one after another, each with its time, and the engine they leave. -/
def run (e : Engine) : List (Operation × Timing) → List Reply × Engine
  | [] => ([], e)
  | (o, t) :: os =>
    let (reply, e) := e.perform t o
    let (replies, e) := e.run os
    (reply :: replies, e)

/-- An engine as it may be met with: built, and used in any way after that. -/
def Reachable (e : Engine) : Prop :=
  ∃ s e₀ os, build s = .ok e₀ ∧ (e₀.run os).2 = e

/-- To load a file is to load the document it holds. -/
theorem loadFile_eq (e : Engine) (f : File) : e.loadFile f = e.loadRead f.document := by
  unfold loadFile File.document
  cases f.text <;> rfl

end Engine

namespace Operation

/-- Whether policies are loaded or unloaded by way of the engine. -/
def isLoading : Operation → Bool
  | loadPolicy _ | load _ | unloadPolicy _ => true
  | _ => false

def loadJson (text : String) : Operation := .load (Document.ofJsonText text)

def loadYaml (text : String) : Operation := .load (Document.ofYamlText text)

def loadFile (f : File) : Operation := .load f.document

end Operation

namespace Engine

/-- The operations that load a text or a file carry out what the engine offers under those names. -/
theorem perform_loadJson (e : Engine) (t : Timing) (text : String) :
    e.perform t (.loadJson text) = (.loaded (e.loadJson text).1, (e.loadJson text).2) := rfl

theorem perform_loadYaml (e : Engine) (t : Timing) (text : String) :
    e.perform t (.loadYaml text) = (.loaded (e.loadYaml text).1, (e.loadYaml text).2) := rfl

theorem perform_loadFile (e : Engine) (t : Timing) (f : File) :
    e.perform t (.loadFile f) = (.loaded (e.loadFile f).1, (e.loadFile f).2) := by
  rw [loadFile_eq]
  rfl

section

variable {P : Engine → Prop}

theorem run_keeps (step : ∀ e t o, P e → P (perform t e o).2) {e : Engine} (h : P e)
    (os : List (Operation × Timing)) : P (e.run os).2 := by
  induction os generalizing e with
  | nil => exact h
  | cons o os ih => exact ih (step e o.2 o.1 h)

/-- All that was loaded was loaded with success. -/
theorem loadAll_keeps {load : Engine → α → Except Error β × Engine}
    (step : ∀ e x b, P e → (load e x).1 = .ok b → P (load e x).2) {xs : List α} {e e' : Engine}
    (he : P e) (h : loadAll load xs e = .ok e') : P e' := by
  induction xs generalizing e with
  | nil =>
    obtain rfl : e = e' := Except.ok.inj h
    exact he
  | cons x xs ih =>
    have hx := step e x
    rw [loadAll] at h
    rcases hr : load e x with ⟨result, e''⟩
    rw [hr] at h hx
    cases result with
    | error err => cases h
    | ok b => exact ih (hx b he rfl) h

theorem exists_of_bind {x : Except ε α} {f : α → Except ε β} {b : β} (h : (x >>= f) = .ok b) :
    ∃ a, x = .ok a ∧ f a = .ok b := by
  cases x with
  | error err => cases h
  | ok a => exact ⟨a, rfl, h⟩

/-- What is loaded when an engine is built could have been loaded later as well. -/
theorem build_keeps
    (step : ∀ e t o, o.isLoading → P e → (perform t e o).1.failed = false → P (perform t e o).2)
    {s : Setup} (start : ∀ e, ofSettings s.effective s.target s.condition s.finder = .ok e → P e)
    {e : Engine} (h : build s = .ok e) : P e := by
  obtain ⟨e₀, h₀, h⟩ := exists_of_bind h
  obtain ⟨e₁, h₁, h⟩ := exists_of_bind h
  obtain ⟨e₂, h₂, h⟩ := exists_of_bind h
  have policy (e : Engine) (n : Node) (id : String) (he : P e) (hok : (e.loadPolicy n).1 = .ok id) :
      P (e.loadPolicy n).2 := by
    apply step e {} (.loadPolicy n) rfl he
    show (Reply.loadedPolicy (e.loadPolicy n).1).failed = false
    rw [hok]
    rfl
  have read (e : Engine) (d : Except Error Document) (ids : List String) (he : P e)
      (hok : (e.loadRead d).1 = .ok ids) : P (e.loadRead d).2 := by
    apply step e {} (.load d) rfl he
    show (Reply.loaded (e.loadRead d).1).failed = false
    rw [hok]
    rfl
  have file (e : Engine) (f : File) (ids : List String) (he : P e)
      (hok : (e.loadFile f).1 = .ok ids) : P (e.loadFile f).2 := by
    rw [loadFile_eq] at hok ⊢
    exact read e f.document ids he hok
  have hp := loadAll_keeps policy (start e₀ h₀) h₁
  have hd := loadAll_keeps (fun e d => read e (.ok d)) hp h₂
  exact loadAll_keeps file hd h

/-- What holds of engines without policies, and is kept by every operation, holds of all that may be met
with. -/
theorem Reachable.induct (start : ∀ s target condition finder e,
    ofSettings s target condition finder = .ok e → P e)
    (step : ∀ e t o, P e → P (perform t e o).2) {e : Engine} (h : e.Reachable) : P e := by
  obtain ⟨s, e₀, os, hb, rfl⟩ := h
  have hbuilt : P e₀ := build_keeps (fun e t o _ he _ => step e t o he) (start _ _ _ _) hb
  exact run_keeps step hbuilt os

end

end Engine

end Arbiter
