import Arbiter.Proofs.Cache
import Arbiter.Proofs.Engine.Response
import Arbiter.Proofs.Engine.Run

namespace Arbiter

namespace Telemetry

/-- How many evaluations came to a decision. -/
def count (t : Telemetry) : Decision → Nat
  | .permit => t.permit
  | .deny => t.deny
  | .notApplicable => t.notApplicable
  | .indeterminate => t.indeterminate

section

variable (t : Telemetry) (d d' : Decision) (ms : Binary64)

theorem count_recordEvaluation :
    (t.recordEvaluation d ms).count d' = t.count d' + if d = d' then 1 else 0 := by
  cases d <;> cases d' <;> rfl

@[simp] theorem cacheHits_recordEvaluation : (t.recordEvaluation d ms).cacheHits = t.cacheHits := by
  cases d <;> rfl

@[simp] theorem cacheMisses_recordEvaluation :
    (t.recordEvaluation d ms).cacheMisses = t.cacheMisses := by
  cases d <;> rfl

@[simp] theorem errors_recordEvaluation : (t.recordEvaluation d ms).errors = t.errors := by
  cases d <;> rfl

theorem totalEvaluations_recordEvaluation :
    (t.recordEvaluation d ms).totalEvaluations = t.totalEvaluations + 1 := by
  cases d <;> simp only [totalEvaluations, recordEvaluation, countDecision, addMicros] <;> omega

end

end Telemetry

namespace Operation

def isEvaluation : Operation → Bool
  | evaluate _ => true
  | _ => false

theorem not_isEvaluation_of_isLoading {o : Operation} (h : o.isLoading) : o.isEvaluation = false := by
  cases o with
  | evaluate r => cases h
  | _ => rfl

end Operation

/-- What was done to an engine, with the replies. -/
abbrev Log := List (Operation × Reply)

namespace Log

def response? : Operation × Reply → Option Response
  | (.evaluate _, .answered r) => some r
  | _ => none

def responses (l : Log) : List Response := l.filterMap response?

def evaluations (l : Log) : Nat := l.countP (·.1.isEvaluation)

/-- How often policies could not be loaded or unloaded. -/
def failures (l : Log) : Nat := l.countP fun x => x.1.isLoading && x.2.failed

section

variable (l : Log) (r : Request) (a : Response)

@[simp] theorem responses_concat_answered :
    responses (l ++ [(.evaluate r, .answered a)]) = responses l ++ [a] := by
  simp [responses, response?]

@[simp] theorem evaluations_concat_answered :
    evaluations (l ++ [(.evaluate r, .answered a)]) = evaluations l + 1 := by
  simp [evaluations, Operation.isEvaluation]

@[simp] theorem failures_concat_answered :
    failures (l ++ [(.evaluate r, .answered a)]) = failures l := by
  simp [failures, Operation.isLoading]

variable {o : Operation} (ho : o.isEvaluation = false) (reply : Reply)

include ho

theorem responses_concat : responses (l ++ [(o, reply)]) = responses l := by
  cases o with
  | evaluate r => cases ho
  | _ => simp [responses, response?]

theorem evaluations_concat : evaluations (l ++ [(o, reply)]) = evaluations l := by
  simp [evaluations, ho]

omit ho in
theorem failures_concat :
    failures (l ++ [(o, reply)]) = failures l + (o.isLoading && reply.failed).toNat := by
  cases h : o.isLoading && reply.failed <;> simp [failures, h]

end

end Log

/-- The cache has the counts of the telemetry, and of as many lookups as there were evaluations. -/
structure Cache.Accounts (c : Cache) (t : Telemetry) (l : Log) : Prop where
  hits : t.cacheHits = c.hits
  misses : t.cacheMisses = c.misses
  lookups : c.hits + c.misses = l.evaluations
  size_le : c.size ≤ c.capacity

/-- A lookup is counted once by the cache and once by the telemetry, when an evaluation is answered. -/
theorem Cache.Accounts.looked {k : Cache} {c : Telemetry} {l : Log} (h : k.Accounts c l) (now : Nat)
    (r : Request) (g : Nat) (a : Response) :
    (k.get now r g).2.Accounts
      { c with
        cacheHits := c.cacheHits + (k.get now r g).1.isSome.toNat
        cacheMisses := c.cacheMisses + (k.get now r g).1.isNone.toNat }
      (l ++ [(.evaluate r, .answered a)]) := by
  obtain ⟨hhits, hmisses⟩ := k.get_counts now r g
  have hone : (k.get now r g).1.isSome.toNat + (k.get now r g).1.isNone.toNat = 1 := by
    cases (k.get now r g).1 <;> rfl
  have hlookups := h.lookups
  constructor
  · rw [hhits, h.hits]
  · rw [hmisses, h.misses]
  · rw [hhits, hmisses, Log.evaluations_concat_answered]
    omega
  · rw [k.get_capacity now r g]
    exact Nat.le_trans (k.size_get_le now r g) h.size_le

namespace Engine

/-- Whether answers are kept: what a finder tells is not. -/
def Setup.caches (s : Setup) : Bool := s.effective.cache.enabled && s.finder.isNone

/-- The counters tell of a log what there is to tell. -/
structure Accounts (s : Setup) (e : Engine) (t : Telemetry) (l : Log) : Prop where
  decisions : ∀ d, t.count d = l.responses.countP (·.decision = d)
  sum : t.totalEvaluations = t.count .permit + t.count .deny + t.count .notApplicable +
    t.count .indeterminate
  total : t.totalEvaluations = l.evaluations
  errors : t.errors = l.failures
  cachedAnswers : t.cacheHits = l.responses.countP (·.cached)
  cached : s.caches →
    ∃ c, e.cache = some c ∧ c.capacity = max s.effective.cache.maxEntries 1 ∧ c.Accounts t l
  uncached : s.caches = false → e.cache = none ∧ t.cacheHits = 0 ∧ t.cacheMisses = 0

/-- Counters are kept, and they tell of a log what there is to tell. -/
def Accountable (s : Setup) (e : Engine) (l : Log) : Prop :=
  ∃ t, e.telemetry = some t ∧ e.Accounts s t l

variable {s : Setup} {e : Engine} {l : Log}

theorem telemetry_countError {c : Telemetry} (hc : e.telemetry = some c) :
    e.countError.telemetry = some { c with errors := c.errors + 1 } :=
  congrArg (Option.map Telemetry.recordError) hc

/-- An operation that evaluates nothing counts an error if it fails to load or unload, and the cache
keeps its counts. -/
theorem perform_uncounted {c : Telemetry} (hc : e.telemetry = some c) (t : Timing) {o : Operation}
    (ho : o.isEvaluation = false) :
    (e.perform t o).2.telemetry =
        some { c with errors := c.errors + (o.isLoading && (e.perform t o).1.failed).toNat } ∧
      ((e.perform t o).2.cache = e.cache ∨ (e.perform t o).2.cache = e.cache.map (·.clear)) := by
  cases o with
  | evaluate r => cases ho
  | clearCache => exact ⟨hc, .inr rfl⟩
  | onStore o => exact ⟨hc, .inl rfl⟩
  | loadPolicy n =>
    simp only [perform, loadPolicy]
    cases e.store.insert n with
    | error i => exact ⟨telemetry_countError hc, .inl rfl⟩
    | ok s => exact ⟨hc, .inr rfl⟩
  | unloadPolicy id =>
    simp only [perform, unloadPolicy]
    cases e.store.remove? id with
    | none => exact ⟨telemetry_countError hc, .inl rfl⟩
    | some x => exact ⟨hc, .inr rfl⟩
  | load d =>
    cases d with
    | error err => exact ⟨telemetry_countError hc, .inl rfl⟩
    | ok d =>
      simp only [perform, loadRead, loadDocument]
      rcases e.store.load d with ⟨_ | _, s⟩
      · exact ⟨telemetry_countError hc, .inl rfl⟩
      · exact ⟨hc, .inr rfl⟩

theorem perform_accountable_of_uncounted (h : e.Accountable s l) (t : Timing) {o : Operation}
    (ho : o.isEvaluation = false) :
    (e.perform t o).2.Accountable s (l ++ [(o, (e.perform t o).1)]) := by
  obtain ⟨c, hc, ha⟩ := h
  obtain ⟨htelemetry, hcache⟩ := perform_uncounted hc t ho
  refine ⟨_, htelemetry, ?_⟩
  constructor
  · intro d
    rw [Log.responses_concat l ho]
    exact ha.decisions d
  · rfl
  · rw [Log.evaluations_concat l ho]
    exact ha.total
  · rw [Log.failures_concat, ← ha.errors]
  · rw [Log.responses_concat l ho]
    exact ha.cachedAnswers
  · intro hs
    obtain ⟨k, hk, hcapacity, hkept⟩ := ha.cached hs
    have hsame : k.Accounts { c with errors := c.errors + (o.isLoading && (e.perform t o).1.failed).toNat }
        (l ++ [(o, (e.perform t o).1)]) := by
      refine { hkept with lookups := ?_ }
      rw [Log.evaluations_concat l ho]
      exact hkept.lookups
    rcases hcache with hcache | hcache
    · exact ⟨k, hcache.trans hk, hcapacity, hsame⟩
    · refine ⟨k.clear, ?_, hcapacity, { hsame with size_le := Nat.zero_le _ }⟩
      rw [hcache, hk]
      rfl
  · intro hs
    obtain ⟨hnone, hcounts⟩ := ha.uncached hs
    refine ⟨?_, hcounts⟩
    rcases hcache with hcache | hcache
    · exact hcache.trans hnone
    · rw [hcache, hnone]
      rfl

theorem compute_telemetry {c : Telemetry} (hc : e.telemetry = some c) (t : Timing) (r : Request) :
    (e.compute t r).2.telemetry =
      some (c.recordEvaluation (e.compute t r).1.response.decision
        (e.compute t r).1.response.evaluationTimeMs) := by
  show e.telemetry.map _ = _
  rw [hc]
  rfl

theorem compute_cached (e : Engine) (t : Timing) (r : Request) :
    (e.compute t r).1.response.cached = false :=
  Response.cached_ofContext r.id (e.decide r).1 (e.decide r).2

/-- What an answer adds to the counters of decisions, where the lookup is counted already. -/
theorem Accounts.answered {c : Telemetry} (ha : e.Accounts s c l) {e' : Engine} (hits misses : Nat)
    (r : Request) (a : Response) (hhits : hits = c.cacheHits + a.cached.toNat)
    (hcached : s.caches → ∃ k, e'.cache = some k ∧ k.capacity = max s.effective.cache.maxEntries 1 ∧
      k.Accounts { c with cacheHits := hits, cacheMisses := misses }
        (l ++ [(.evaluate r, .answered a)]))
    (huncached : s.caches = false → e'.cache = none ∧ hits = 0 ∧ misses = 0) :
    e'.Accounts s
      ({ c with cacheHits := hits, cacheMisses := misses }.recordEvaluation a.decision
        a.evaluationTimeMs)
      (l ++ [(.evaluate r, .answered a)]) := by
  constructor
  · intro d
    have hcount :
        { c with cacheHits := hits, cacheMisses := misses }.count d = c.count d := by
      cases d <;> rfl
    rw [Telemetry.count_recordEvaluation, hcount, ha.decisions, Log.responses_concat_answered]
    simp [List.countP_append, List.countP_cons]
  · rfl
  · rw [Telemetry.totalEvaluations_recordEvaluation, Log.evaluations_concat_answered, ← ha.total]
    rfl
  · rw [Telemetry.errors_recordEvaluation, Log.failures_concat_answered]
    exact ha.errors
  · rw [Telemetry.cacheHits_recordEvaluation, Log.responses_concat_answered, hhits, ha.cachedAnswers]
    cases hc : a.cached <;> simp [hc]
  · intro hs
    obtain ⟨k, hk, hcapacity, hkept⟩ := hcached hs
    refine ⟨k, hk, hcapacity, ?_, ?_, hkept.lookups, hkept.size_le⟩
    · rw [Telemetry.cacheHits_recordEvaluation, hkept.hits]
    · rw [Telemetry.cacheMisses_recordEvaluation, hkept.misses]
  · intro hs
    rw [Telemetry.cacheHits_recordEvaluation, Telemetry.cacheMisses_recordEvaluation]
    exact huncached hs

theorem evaluate_accountable (h : e.Accountable s l) (t : Timing) (r : Request) :
    (e.evaluate t r).2.Accountable s
      (l ++ [(.evaluate r, .answered (e.evaluate t r).1.response)]) := by
  obtain ⟨c, hc, ha⟩ := h
  unfold evaluate
  cases hk : e.cache with
  | none =>
    refine ⟨_, compute_telemetry hc t r, ?_⟩
    apply ha.answered c.cacheHits c.cacheMisses
    · rw [compute_cached]
      rfl
    · intro hs
      obtain ⟨k, hsome, -⟩ := ha.cached hs
      rw [hk] at hsome
      cases hsome
    · intro hs
      obtain ⟨-, hcounts⟩ := ha.uncached hs
      refine ⟨?_, hcounts⟩
      show e.cache.map _ = none
      rw [hk]
      rfl
  | some k =>
    have hon (hs : s.caches) : k.capacity = max s.effective.cache.maxEntries 1 ∧ k.Accounts c l := by
      obtain ⟨k', hk', hkept⟩ := ha.cached hs
      obtain rfl := Option.some.inj (hk.symm.trans hk')
      exact hkept
    have hoff (hs : s.caches = false) : False := by
      obtain ⟨hnone, -⟩ := ha.uncached hs
      rw [hk] at hnone
      cases hnone
    have hlooked (a : Response) (hs : s.caches) := (hon hs).2.looked t.now r e.store.generation a
    have hcapacity := k.get_capacity t.now r e.store.generation
    rcases hg : k.get t.now r e.store.generation with ⟨found, k'⟩
    rw [hg] at hlooked hcapacity
    simp only [hg]
    cases found with
    | some response =>
      refine ⟨_, ?_, ha.answered (c.cacheHits + 1) c.cacheMisses r _ rfl ?_ fun hs => (hoff hs).elim⟩
      · show (e.telemetry.map (·.recordLookup true)).map _ = _
        rw [hc]
        rfl
      · intro hs
        exact ⟨k', rfl, hcapacity.trans (hon hs).1, hlooked _ hs⟩
    | none =>
      have hc' : ({ e with cache := some k' }.recordLookup false).telemetry =
          some { c with cacheMisses := c.cacheMisses + 1 } := by
        show e.telemetry.map (·.recordLookup false) = _
        rw [hc]
        rfl
      refine ⟨_, compute_telemetry hc' t r, ?_⟩
      apply ha.answered c.cacheHits (c.cacheMisses + 1)
      · rw [compute_cached]
        rfl
      · intro hs
        refine ⟨_, rfl, hcapacity.trans (hon hs).1, { hlooked _ hs with size_le := ?_ }⟩
        exact k'.size_put_le ..
      · exact fun hs => (hoff hs).elim

theorem perform_accountable (h : e.Accountable s l) (t : Timing) (o : Operation) :
    (e.perform t o).2.Accountable s (l ++ [(o, (e.perform t o).1)]) := by
  cases ho : o.isEvaluation with
  | false => exact perform_accountable_of_uncounted h t ho
  | true =>
    cases o with
    | evaluate r => exact evaluate_accountable h t r
    | _ => cases ho

theorem run_accountable (h : e.Accountable s l) (os : List (Operation × Timing)) :
    (e.run os).2.Accountable s (l ++ (os.map (·.1)).zip (e.run os).1) := by
  induction os generalizing e l with
  | nil =>
    show e.Accountable s (l ++ [])
    rwa [List.append_nil]
  | cons o os ih =>
    obtain ⟨o, t⟩ := o
    have hrest := ih (perform_accountable h t o)
    rw [List.append_assoc] at hrest
    exact hrest

/-- Of a log, the counters know the responses and the failures. -/
theorem Accountable.of_log (h : e.Accountable s l) {l' : Log} (hr : l'.responses = l.responses)
    (he : l'.evaluations = l.evaluations) (hf : l'.failures = l.failures) : e.Accountable s l' := by
  obtain ⟨c, hc, ha⟩ := h
  refine ⟨c, hc, ?_⟩
  constructor
  · rw [hr]
    exact ha.decisions
  · rfl
  · rw [he]
    exact ha.total
  · rw [hf]
    exact ha.errors
  · rw [hr]
    exact ha.cachedAnswers
  · intro hs
    obtain ⟨k, hk, hcapacity, hkept⟩ := ha.cached hs
    exact ⟨k, hk, hcapacity, { hkept with lookups := he ▸ hkept.lookups }⟩
  · exact ha.uncached

theorem ofSettings_accountable (ht : s.effective.telemetry.enabled)
    (h : ofSettings s.effective s.target s.condition s.finder = .ok e) : e.Accountable s [] := by
  unfold ofSettings at h
  cases hf : s.effective.flaw? with
  | some f => simp [hf] at h
  | none =>
    rw [hf] at h
    obtain rfl := Except.ok.inj h
    have hcache : cacheFor s.effective.cache s.finder =
        if s.caches then
          some (.ofCapacity s.effective.cache.maxEntries (s.effective.cache.ttlSeconds * 1000))
        else none := rfl
    refine ⟨{ settings := s.effective.telemetry }, if_pos ht, ?_⟩
    constructor
    · intro d
      cases d <;> rfl
    · rfl
    · rfl
    · rfl
    · rfl
    · intro hs
      rw [hcache, if_pos hs]
      exact ⟨_, rfl, rfl, rfl, rfl, rfl, Nat.zero_le _⟩
    · intro hs
      rw [hcache, hs]
      exact ⟨rfl, rfl, rfl⟩

/-- Nothing that an engine is built with counts. -/
theorem build_accountable (ht : s.effective.telemetry.enabled) (h : build s = .ok e) :
    e.Accountable s [] := by
  apply build_keeps _ (fun e => ofSettings_accountable ht) h
  intro e t o ho he hok
  have heval := Operation.not_isEvaluation_of_isLoading ho
  apply (perform_accountable_of_uncounted he t heval).of_log
  · rw [Log.responses_concat _ heval]
  · rw [Log.evaluations_concat _ heval]
  · rw [Log.failures_concat, hok, Bool.and_false]
    rfl

theorem length_run (e : Engine) (os : List (Operation × Timing)) :
    (e.run os).1.length = os.length := by
  induction os generalizing e with
  | nil => rfl
  | cons o os ih => exact congrArg (· + 1) (ih (e.perform o.2 o.1).2)

/-- Whatever is done to an engine whose counters are kept, they account for all of it. -/
theorem run_accounts (hb : build s = .ok e) (ht : s.effective.telemetry.enabled)
    (os : List (Operation × Timing)) :
    (e.run os).1.length = os.length ∧
      (e.run os).2.Accountable s ((os.map (·.1)).zip (e.run os).1) :=
  ⟨length_run e os, run_accountable (build_accountable ht hb) os⟩

def permitting : Node := .policy (.always "p" .permit [])

/-- Everything fails that can between two evaluations and a third, to take out of the store what it does
not hold included. -/
def failingRun : List (Operation × Timing) :=
  [(.evaluate { id := "a" }, { now := 1 }),
    (.evaluate { id := "b" }, { now := 2 }),
    (.loadFile { extension := "json", text := none }, {}),
    (.loadJson "[", {}),
    (.load (.ok { policies := [permitting, permitting] }), {}),
    (.loadPolicy (.reference "p"), {}),
    (.unloadPolicy "q", {}),
    (.onStore (.remove "q"), {}),
    (.clearCache, {}),
    (.evaluate { id := "c" }, { now := 3 })]

/-- The second answer is the first one again, and the third is not, for the cache was cleared. -/
theorem run_accounts_failing :
    let e : Engine :=
      { settings := { cache := { enabled := true } }, store := ⟨[permitting], 1⟩,
        cache := some (.ofCapacity 10000 300000), telemetry := some {} }
    let out := (e.run failingRun).2
    ∃ t c, out.telemetry = some t ∧ out.cache = some c ∧ t.permit = 3 ∧ t.totalEvaluations = 3 ∧
      t.errors = 5 ∧ t.cacheHits = 1 ∧ t.cacheMisses = 2 ∧ c.hits = 1 ∧ c.misses = 2 := by
  intro e out
  have hb : build { cacheEnabled := some true, policies := [permitting] } = .ok e := rfl
  obtain ⟨-, t, ht, ha⟩ := run_accounts hb rfl failingRun
  obtain ⟨c, hc, -, hkept⟩ := ha.cached rfl
  have hpermit : t.permit = 3 := (ha.decisions .permit).trans (by decide +kernel)
  have htotal : t.totalEvaluations = 3 := ha.total
  have herrors : t.errors = 5 := ha.errors.trans (by decide +kernel)
  have hhits : t.cacheHits = 1 := ha.cachedAnswers.trans (by decide +kernel)
  have hlookups : c.hits + c.misses = 3 := hkept.lookups
  have hsame := hkept.hits
  have hsame' := hkept.misses
  exact ⟨t, c, ht, hc, hpermit, htotal, herrors, hhits, by omega, by omega, by omega⟩

end Engine

end Arbiter
