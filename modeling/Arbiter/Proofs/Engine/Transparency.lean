import Arbiter.Proofs.Cache
import Arbiter.Proofs.Engine.Response
import Arbiter.Proofs.History
import Mathlib.Data.List.Forall2

/-! The cache is transparent: replies do not hang on it.

An engine is compared with its core, which is the same engine without cache and counters. What ties the
cache to the store is that each entry of the store's generation answers as the policies would. An entry
of an earlier generation is never asked again, for generations only grow. -/

namespace Arbiter

namespace Engine

/-- An engine without cache and counters, and without the settings of those. -/
def core (e : Engine) : Engine where
  settings := { engine := e.settings.engine }
  target := e.target
  condition := e.condition
  finder := e.finder
  store := e.store

/-- An entry answers as the policies do, as long as the store stays of its generation. -/
structure Vouches (e : Engine) (x : CacheEntry) : Prop where
  generation_le : x.key.generation ≤ e.store.generation
  answers : ∀ r : Request, x.key = r.cacheKey e.store.generation →
    { x.response.untimed with requestId := r.id } = e.respond r

/-- What the cache holds is vouched for by the policies. -/
def Consistent (e : Engine) : Prop :=
  ∀ c, e.cache = some c → e.finder = none ∧ ∀ x ∈ c.entries, e.core.Vouches x

theorem consistent_of_cache_none {e : Engine} (h : e.cache = none) : e.Consistent := by
  intro c hc
  rw [h] at hc
  cases hc

theorem consistent_clearCache (e : Engine) (h : e.cache.isSome → e.finder = none) :
    e.clearCache.Consistent := by
  intro c hc
  obtain ⟨c', hc', rfl⟩ := Option.map_eq_some_iff.mp hc
  refine ⟨h (by simp [hc']), ?_⟩
  intro x hx
  simp [Cache.clear] at hx

/-- Entries that stood for a store still do after it was changed, or have become out of date. -/
theorem Vouches.of_moves {e : Engine} {x : CacheEntry} (h : e.Vouches x) {s : Store}
    (hs : e.store.Moves s) : { e with store := s }.Vouches x := by
  rcases hs with rfl | hlt
  · exact h
  · have hle := h.generation_le
    refine ⟨show x.key.generation ≤ s.generation by omega, ?_⟩
    intro r hr
    have hk : x.key.generation = s.generation := congrArg CacheKey.generation hr
    omega

/-- The policies vouch for what was computed from them. -/
theorem vouches_computed {e : Engine} (hf : e.finder = none) (r : Request) {response : Response}
    (h : response.untimed = e.respond r) (expiresAt : Nat) :
    e.Vouches ⟨r.cacheKey e.store.generation, response, expiresAt⟩ := by
  refine ⟨Nat.le_refl _, ?_⟩
  intro r' hr
  obtain ⟨ha, -⟩ := Request.cacheKey_inj.mp hr
  rw [← respond_of_attributes hf ha, ← h]

theorem Consistent.finder_none {e : Engine} (h : e.Consistent) (hc : e.cache.isSome) :
    e.finder = none := by
  obtain ⟨c, hc⟩ := Option.isSome_iff_exists.mp hc
  exact (h c hc).1

theorem compute_consistent {e : Engine} (h : e.Consistent) (t : Timing) (r : Request) :
    (e.compute t r).2.Consistent := by
  intro c hc
  obtain ⟨c', hc', rfl⟩ := Option.map_eq_some_iff.mp hc
  obtain ⟨hf, hx⟩ := h c' hc'
  refine ⟨hf, ?_⟩
  intro x hmem
  rcases c'.mem_put t.now r e.store.generation hmem with rfl | hold
  · exact vouches_computed (e := e.core) hf r (e.compute_response r t) _
  · exact hx x hold

/-- Whether it is looked up or computed, an answer is that of the policies. -/
theorem evaluate_spec {e : Engine} (h : e.Consistent) (t : Timing) (r : Request) :
    (e.evaluate t r).1.response.untimed = e.respond r ∧ (e.evaluate t r).2.core = e.core ∧
      (e.evaluate t r).2.Consistent := by
  unfold evaluate
  cases hc : e.cache with
  | none => exact ⟨e.compute_response r t, rfl, compute_consistent h t r⟩
  | some c =>
    obtain ⟨hf, hx⟩ := h c hc
    rcases hg : c.get t.now r e.store.generation with ⟨found, c'⟩
    have hsub (x : CacheEntry) (hmem : x ∈ c'.entries) : e.core.Vouches x := by
      apply hx x
      apply c.mem_get t.now r e.store.generation
      rw [hg]
      exact hmem
    have hcons : { e with cache := some c' }.Consistent := by
      intro c'' hc''
      obtain rfl : c' = c'' := Option.some.inj hc''
      exact ⟨hf, hsub⟩
    simp only [hg]
    cases found with
    | none => exact ⟨compute_response _ r t, rfl, compute_consistent hcons t r⟩
    | some response =>
      refine ⟨?_, rfl, hcons⟩
      obtain ⟨x, hmem, hkey, rfl⟩ := c.of_get t.now r e.store.generation (congrArg Prod.fst hg)
      exact (hx x hmem).answers r hkey

section

variable (e : Engine)

/-- Loading and unloading look at the core alone. -/
theorem loadPolicy_core (n : Node) :
    e.core.loadPolicy n = ((e.loadPolicy n).1, (e.loadPolicy n).2.core) := by
  have hs : e.core.store = e.store := rfl
  rw [loadPolicy, loadPolicy, hs]
  cases e.store.insert n <;> rfl

theorem loadDocument_core (d : Document) :
    e.core.loadDocument d = ((e.loadDocument d).1, (e.loadDocument d).2.core) := by
  have hs : e.core.store = e.store := rfl
  rw [loadDocument, loadDocument, hs]
  rcases e.store.load d with ⟨_ | _, s⟩ <;> rfl

theorem loadRead_core (d : Except Error Document) :
    e.core.loadRead d = ((e.loadRead d).1, (e.loadRead d).2.core) := by
  cases d with
  | error err => rfl
  | ok d => exact e.loadDocument_core d

theorem loadFile_core (f : File) : e.core.loadFile f = ((e.loadFile f).1, (e.loadFile f).2.core) := by
  unfold loadFile
  cases f.text with
  | none => exact e.loadRead_core _
  | some text => exact e.loadRead_core _

theorem unloadPolicy_core (id : String) :
    e.core.unloadPolicy id = ((e.unloadPolicy id).1, (e.unloadPolicy id).2.core) := by
  have hs : e.core.store = e.store := rfl
  rw [unloadPolicy, unloadPolicy, hs]
  rcases e.store.remove? id with _ | ⟨n, s⟩ <;> rfl

end

theorem loadPolicy_consistent {e : Engine} (h : e.Consistent) (n : Node) :
    (e.loadPolicy n).2.Consistent := by
  unfold loadPolicy
  cases e.store.insert n with
  | error i => exact h
  | ok s => exact consistent_clearCache { e with store := s } h.finder_none

theorem loadDocument_consistent {e : Engine} (h : e.Consistent) (d : Document) :
    (e.loadDocument d).2.Consistent := by
  unfold loadDocument
  rcases e.store.load_spec d with ⟨i, -, hload⟩ | ⟨s, -, hload, -⟩
  · rw [hload]
    exact h
  · rw [hload]
    exact consistent_clearCache { e with store := s } h.finder_none

theorem loadRead_consistent {e : Engine} (h : e.Consistent) (d : Except Error Document) :
    (e.loadRead d).2.Consistent := by
  cases d with
  | error err => exact h
  | ok d => exact loadDocument_consistent h d

theorem unloadPolicy_consistent {e : Engine} (h : e.Consistent) (id : String) :
    (e.unloadPolicy id).2.Consistent := by
  unfold unloadPolicy
  rcases e.store.remove? id with _ | ⟨n, s⟩
  · exact h
  · exact consistent_clearCache { e with store := s } h.finder_none

end Engine

/-- A reply without what only tells how an answer was come by. -/
def Reply.untimed : Reply → Reply
  | .answered r => .answered r.untimed
  | reply => reply

/-- A reply to an evaluation is a response under the id of the request. -/
def Reply.Addresses (reply : Reply) (o : Operation) : Prop :=
  ∀ r, o = .evaluate r → ∃ response, reply = .answered response ∧ response.requestId = r.id

namespace Engine

/-- One operation: the reply is that of the core, whatever the cache holds and the clock says. -/
theorem perform_spec {e : Engine} (h : e.Consistent) (t : Timing) (o : Operation) :
    (e.perform t o).1.untimed = (e.core.perform {} o).1.untimed ∧
      (e.perform t o).2.core = (e.core.perform {} o).2.core ∧ (e.perform t o).2.Consistent ∧
        (e.perform t o).1.Addresses o := by
  have hno (hne : ∀ r, o ≠ .evaluate r) (reply : Reply) : reply.Addresses o :=
    fun r hr => absurd hr (hne r)
  cases o with
  | evaluate r =>
    obtain ⟨ha, hc, hcons⟩ := evaluate_spec h t r
    obtain ⟨ha', hc', -⟩ := evaluate_spec (e := e.core) (consistent_of_cache_none rfl) {} r
    refine ⟨congrArg Reply.answered (ha.trans ha'.symm), hc.trans hc'.symm, hcons, ?_⟩
    rintro r' hr
    obtain rfl : r = r' := Operation.evaluate.inj hr
    refine ⟨_, rfl, ?_⟩
    have hid : (e.respond r).requestId = r.id := Response.requestId_ofContext _ _ _
    rw [← hid, ← ha]
    rfl
  | loadPolicy n =>
    rw [perform, perform, e.loadPolicy_core]
    exact ⟨rfl, rfl, loadPolicy_consistent h n, hno (by simp) _⟩
  | load d =>
    rw [perform, perform, e.loadRead_core]
    exact ⟨rfl, rfl, loadRead_consistent h d, hno (by simp) _⟩
  | unloadPolicy id =>
    rw [perform, perform, e.unloadPolicy_core]
    exact ⟨rfl, rfl, unloadPolicy_consistent h id, hno (by simp) _⟩
  | clearCache => exact ⟨rfl, rfl, consistent_clearCache e h.finder_none, hno (by simp) _⟩
  | onStore o =>
    refine ⟨rfl, rfl, ?_, hno (by simp) _⟩
    intro c hc
    obtain ⟨hf, hx⟩ := h c hc
    refine ⟨hf, ?_⟩
    intro x hmem
    exact (hx x hmem).of_moves (e.store.perform_moves o)

/-- Two engines of one core reply alike to operations one after another, each by a clock of its own. -/
theorem run_spec {e f : Engine} (he : e.Consistent) (hf : f.Consistent) (hc : e.core = f.core)
    (os : List (Operation × Timing × Timing)) :
    (e.run (os.map fun o => (o.1, o.2.1))).1.map (·.untimed) =
        (f.run (os.map fun o => (o.1, o.2.2))).1.map (·.untimed) ∧
      List.Forall₂ (fun reply o => Reply.Addresses reply o.1)
        (e.run (os.map fun o => (o.1, o.2.1))).1 os := by
  induction os generalizing e f with
  | nil => exact ⟨rfl, .nil⟩
  | cons o os ih =>
    obtain ⟨o, t, u⟩ := o
    obtain ⟨hre, hce, hcons, haddr⟩ := perform_spec he t o
    obtain ⟨hrf, hcf, hcons', -⟩ := perform_spec hf u o
    have hcore : (e.perform t o).2.core = (f.perform u o).2.core := by rw [hce, hcf, hc]
    have hreply : (e.perform t o).1.untimed = (f.perform u o).1.untimed := by rw [hre, hrf, hc]
    obtain ⟨hrest, hall⟩ := ih hcons hcons' hcore
    simp only [List.map_cons, run]
    exact ⟨by rw [hreply, hrest], .cons haddr hall⟩

/-- What an engine is built with is loaded. -/
def loadSetup (s : Setup) (e : Engine) : Except Error Engine := do
  let e ← loadAll loadPolicy s.policies e
  let e ← loadAll loadDocument s.documents e
  loadAll loadFile s.files e

theorem loadAll_core {load : Engine → α → Except Error β × Engine}
    (hl : ∀ e x, load (core e) x = ((load e x).1, (load e x).2.core)) (xs : List α) (e : Engine) :
    loadAll load xs e.core = (loadAll load xs e).map core := by
  induction xs generalizing e with
  | nil => rfl
  | cons x xs ih =>
    rw [loadAll, loadAll, hl]
    rcases load e x with ⟨result, e'⟩
    cases result with
    | error err => rfl
    | ok b => exact ih e'

theorem bind_core {x : Except Error Engine} {f : Engine → Except Error Engine}
    (hf : ∀ e, f (core e) = (f e).map core) : (x.map core >>= f) = (x >>= f).map core := by
  cases x with
  | error err => rfl
  | ok e => exact hf e

theorem loadSetup_core (s : Setup) (e : Engine) :
    loadSetup s e.core = (loadSetup s e).map core := by
  unfold loadSetup
  rw [loadAll_core fun e n => e.loadPolicy_core n]
  apply bind_core
  intro e
  rw [loadAll_core fun e d => e.loadDocument_core d]
  apply bind_core
  intro e
  exact loadAll_core (fun e f => e.loadFile_core f) s.files e

/-- An engine as it is built starts with an empty cache, and with none if there is a finder. -/
theorem ofSettings_spec {s : Settings} {target condition : Matcher} {finder : Option Finder}
    {e : Engine} (h : ofSettings s target condition finder = .ok e) :
    e.core = { settings := { engine := s.engine }, target, condition, finder } ∧ e.Consistent := by
  unfold ofSettings at h
  cases hf : s.flaw? with
  | some f => simp [hf] at h
  | none =>
    rw [hf] at h
    obtain rfl := Except.ok.inj h
    refine ⟨rfl, ?_⟩
    intro c hc
    simp only [cacheFor] at hc
    split at hc
    · rename_i hon
      obtain rfl := Option.some.inj hc
      refine ⟨by simpa using (Bool.and_eq_true_iff.mp hon).2, ?_⟩
      intro x hx
      simp [Cache.ofCapacity] at hx
    · cases hc

theorem perform_consistent (e : Engine) (t : Timing) (o : Operation) (h : e.Consistent) :
    (e.perform t o).2.Consistent := by
  obtain ⟨-, -, hcons, -⟩ := perform_spec h t o
  exact hcons

theorem Reachable.consistent {e : Engine} (h : e.Reachable) : e.Consistent :=
  h.induct (fun _ _ _ _ _ ho => (ofSettings_spec ho).2) perform_consistent

/-- What was built has nothing in its cache that the policies do not vouch for, and its core hangs on
the engine settings alone. -/
theorem build_spec {s : Setup} {e : Engine} (h : build s = .ok e) :
    e.Consistent ∧
      loadSetup s { settings := { engine := s.settings.engine }, target := s.target,
                    condition := s.condition, finder := s.finder } = .ok e.core := by
  obtain ⟨e₀, ho, hl⟩ := exists_of_bind h
  obtain ⟨hcore, -⟩ := ofSettings_spec ho
  refine ⟨Reachable.consistent ⟨s, e, [], h, rfl⟩, ?_⟩
  have hlc := loadSetup_core s e₀
  rw [show loadSetup s e₀ = .ok e from hl, hcore] at hlc
  exact hlc

/-- With or without a cache, of any capacity and with any time to live, an engine replies alike to every
run of operations, the changes made to its store directly included, and each answer is addressed to its
own request. The clocks of the two engines need not agree. -/
theorem replies_eq_of_cache (s : Setup) (cached plain : Engine)
    (hc : build { s with cacheEnabled := some true } = .ok cached)
    (hp : build { s with cacheEnabled := some false } = .ok plain)
    (os : List (Operation × Timing × Timing)) :
    (cached.run (os.map fun o => (o.1, o.2.1))).1.map (·.untimed) =
        (plain.run (os.map fun o => (o.1, o.2.2))).1.map (·.untimed) ∧
      List.Forall₂ (fun reply o => Reply.Addresses reply o.1)
        (cached.run (os.map fun o => (o.1, o.2.1))).1 os := by
  obtain ⟨hcons, hcore⟩ := build_spec hc
  obtain ⟨hcons', hcore'⟩ := build_spec hp
  have heq : cached.core = plain.core := Except.ok.inj (hcore.symm.trans hcore')
  exact run_spec hcons hcons' heq os

/-- A permit is cached and asked for under another id, and then the policy is replaced in the store. -/
theorem replies_eq_of_cache_replaced :
    (run { settings := { cache := { enabled := true } }, cache := some (.ofCapacity 10000 300000),
           telemetry := some {} }
        ([(.loadPolicy (.policy (.always "p" .permit [])), {}, {}),
          (.evaluate { id := "a" }, { now := 1 }, { now := 5 }),
          (.evaluate { id := "b" }, { now := 2 }, {}),
          (.onStore (.insert (.policy (.always "p" .deny []))), {}, {}),
          (.evaluate { id := "c" }, { now := 3 }, {})].map
            fun (o : Operation × Timing × Timing) => (o.1, o.2.1))).1.map (·.untimed) =
      (run { settings := {}, telemetry := some {} }
        ([(.loadPolicy (.policy (.always "p" .permit [])), {}, {}),
          (.evaluate { id := "a" }, { now := 1 }, { now := 5 }),
          (.evaluate { id := "b" }, { now := 2 }, {}),
          (.onStore (.insert (.policy (.always "p" .deny []))), {}, {}),
          (.evaluate { id := "c" }, { now := 3 }, {})].map
            fun (o : Operation × Timing × Timing) => (o.1, o.2.2))).1.map (·.untimed) :=
  (replies_eq_of_cache {} _ _ rfl rfl _).1

end Engine

end Arbiter
