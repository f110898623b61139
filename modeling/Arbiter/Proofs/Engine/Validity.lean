import Arbiter.Proofs.Engine.Status
import Arbiter.Proofs.Validity

namespace Arbiter

namespace Store

/-- The node is stored, or it is beneath one that is. -/
def Covers (s : Store) (n : Node) : Prop := ∃ k ∈ s.nodes, k.Contains n

end Store

namespace Engine

theorem evaluate_store (e : Engine) (t : Timing) (r : Request) :
    (e.evaluate t r).2.store = e.store := by
  unfold evaluate
  cases e.cache with
  | none => rfl
  | some c =>
    rcases hg : c.get t.now r e.store.generation with ⟨_ | _, c'⟩ <;>
      · simp only [hg]
        rfl

theorem perform_valid (e : Engine) (t : Timing) (o : Operation) (h : e.store.Valid) :
    (e.perform t o).2.store.Valid := by
  cases o with
  | evaluate r =>
    show (e.evaluate t r).2.store.Valid
    rwa [evaluate_store]
  | loadPolicy n =>
    simp only [perform, loadPolicy]
    cases hn : e.store.insert n with
    | error i => exact h
    | ok s => exact Store.insert_valid hn h
  | load d =>
    cases d with
    | error err => exact h
    | ok d =>
      have hload := Store.load_valid d h
      simp only [perform, loadRead, loadDocument]
      rcases hl : e.store.load d with ⟨_ | _, s⟩ <;> rwa [hl] at hload
  | unloadPolicy id =>
    simp only [perform, unloadPolicy]
    rcases hid : e.store.remove? id with _ | ⟨n, s⟩
    · exact h
    · exact Store.remove?_valid hid h
  | clearCache => exact h
  | onStore o => exact Store.perform_valid o h

/-- Whichever way a node came into the store, it was checked. -/
theorem Reachable.valid {e : Engine} (h : e.Reachable) : e.store.Valid := by
  refine h.induct ?_ perform_valid
  intro s target condition finder e ho
  have hstore : e.store = e.core.store := rfl
  rw [hstore, (ofSettings_spec ho).1]
  exact fun n hn => absurd hn List.not_mem_nil

/-- References lead back into the store. -/
theorem covers_of_reaches {e : Engine} {r : Request} {n m : Node} (h : (e.scene r).Reaches n m)
    (hn : e.store.Covers n) : e.store.Covers m := by
  induction h with
  | self => exact hn
  | child hmem _ ih =>
    obtain ⟨k, hk, hkn⟩ := hn
    exact ih ⟨k, hk, hkn.trans (.child hmem (.self _))⟩
  | reference hid _ ih => exact ih ⟨_, Store.mem_nodes_of_get? hid, .self _⟩

/-- No stored node has a defect, and no pattern in its conditions is unreadable. -/
structure Flawless (e : Engine) : Prop where
  defects : ∀ n ∈ e.store.nodes, n.defects = []
  patterns : ∀ n, e.store.Covers n → ∀ c ∈ n.conditions, ∀ p, c.Part p → p.PatternReads

/-- What validity comes to when a request is evaluated. -/
structure Undisturbed (e : Engine) (r : Request) : Prop where
  response : ∀ t : Timing, .syntaxError ∉ (e.evaluate t r).1.response.statusCodes ∧
    (e.evaluate t r).1.response.statusCode ≠ .syntaxError
  /-- Conditions fail for the request alone, also in nodes that only references lead to. -/
  conditions : ∀ n ∈ e.store.nodes, ∀ m, (e.scene r).Reaches n m → ∀ c ∈ m.conditions,
    ∀ p, c.Part p → (p.evaluate (e.scene r).matching.source).Proper
  /-- No fold lacks its list or a child in it, and no child its algorithm. -/
  folds : ∀ n ∈ e.store.candidates, ∀ m, (e.scene r).Reaches n m → m.WellFormed ∧
    ∀ ctx : Context, ((e.scene r).evaluateNode m ctx.fresh).1 ≠ none

variable {e : Engine}

theorem Flawless.covered (hs : e.Flawless) (h : e.Reachable) {n : Node} (hn : e.store.Covers n) :
    n.invalid? = none ∧ n.defects = [] := by
  obtain ⟨k, hk, hkn⟩ := hn
  have htop := h.valid k hk
  have hi : k.invalid? = none := by
    cases k with
    | policy | policySet => exact htop
    | reference id => simp [Node.invalidAtTop?] at htop
  exact hkn.valid hi (hs.defects k hk)

theorem Flawless.proper (hs : e.Flawless) (h : e.Reachable) (hf : e.finder = none) (r : Request)
    {n : Node} (hn : e.store.Covers n) {c p : Condition} (hc : c ∈ n.conditions) (hp : c.Part p) :
    (p.evaluate (e.scene r).matching.source).Proper := by
  have hflaw := hp.flaw?_eq_none (Node.flaw?_eq_none (hs.covered h hn).1 c hc)
  exact Condition.evaluate_proper hf hflaw fun q hq => hs.patterns n hn c hc q (hp.trans hq)

theorem Flawless.orderly (hs : e.Flawless) (h : e.Reachable) (hf : e.finder = none) (r : Request)
    {n : Node} (hn : e.store.Covers n) : (e.scene r).Orderly n := by
  intro m hm
  have hcovered := covers_of_reaches hm hn
  refine ⟨Node.wellFormed_of_defects (hs.covered h hcovered).2, ?_⟩
  exact fun c hc => hs.proper h hf r hcovered hc (.self c)

theorem covers_of_mem {n : Node} (hn : n ∈ e.store.nodes) : e.store.Covers n := ⟨n, hn, .self n⟩

/-- Validation is sound: if no stored node has a defect and every pattern can be read, then no evaluation
with the default matchers and without a finder comes to a syntax error. -/
theorem undisturbed_of_flawless (h : e.Reachable) (ht : e.target = .byValue)
    (hc : e.condition = .byValue) (hf : e.finder = none) (hs : e.Flawless) (r : Request) :
    e.Undisturbed r := by
  have hplain : (e.scene r).matching.Plain := ⟨ht, hc⟩
  have hunbroken (n : Node) (hn : e.store.Covers n) (ctx : Context) :
      ((e.scene r).alone ctx n).Unbroken :=
    Scene.alone_unbroken hplain ctx n (hs.orderly h hf r hn)
  have hcandidates (n : Node) (hn : n ∈ e.store.candidates) : e.store.Covers n :=
    covers_of_mem (Store.mem_candidates.mp hn).1
  have hverdict : .syntaxError ∉ (e.verdict r).2.codes := by
    apply PolicyAlgorithm.outcome_unbroken
    · rw [allPresent?_map_some]
      rfl
    · intro n hn
      exact hunbroken n (hcandidates n (by simpa [presentIn] using hn)) e.start
  refine ⟨?_, ?_, ?_⟩
  · intro t
    obtain ⟨hresponse, -, -⟩ := evaluate_spec h.consistent t r
    have hcodes : .syntaxError ∉ (e.respond r).statusCodes := by
      rw [respond_eq]
      exact fun hm => hverdict (Response.mem_statusCodes_ofContext hm)
    have hcode : (e.respond r).statusCode ≠ .syntaxError := by
      rcases (e.respond_agrees r).code_mem with hok | hmem
      · simp [hok]
      · exact fun heq => hcodes (heq ▸ hmem)
    rw [← hresponse] at hcodes hcode
    exact ⟨hcodes, hcode⟩
  · intro n hn m hm c hcm p hp
    exact hs.proper h hf r (covers_of_reaches hm (covers_of_mem hn)) hcm hp
  · intro n hn m hm
    have hcovered := covers_of_reaches hm (hcandidates n hn)
    exact ⟨Node.wellFormed_of_defects (hs.covered h hcovered).2, fun ctx =>
      (hunbroken m hcovered ctx).decided⟩

/-- Denies those in whose name a pattern is not found, and is no candidate itself. -/
def unnamed : Policy :=
  { Policy.always "q" .deny [] with
    target := some (.not (.compare .fits
      { category := .subject, attributeId := "name", mustBePresent := true } (.string "a")))
    enabled := false }

/-- Leaves it to another policy. -/
def deferring : Node :=
  .policySet { id := "p", algorithm := some .onlyOneApplicable } (some [some (.reference "q")])

theorem unnamed_patterns : ∀ c ∈ (Node.policy unnamed).conditions, ∀ p, c.Part p → p.PatternReads := by
  intro c hc p hp hfits text htext
  obtain rfl := List.mem_singleton.mp hc
  cases hp with
  | self => cases hfits
  | nested _ hd hp =>
    obtain rfl := List.mem_singleton.mp hd
    cases hp with
    | self =>
      cases htext
      decide
    | nested hconn => cases hconn

/-- The name is missing behind a reference, which is no syntax error. -/
theorem undisturbed_of_flawless_missing :
    let e : Engine :=
      { settings := {}, store := ⟨[deferring, .policy unnamed], 2⟩, telemetry := some {} }
    let response := (e.evaluate {} {}).1.response
    response.statusCodes = [.missingAttribute] ∧ .syntaxError ∉ response.statusCodes := by
  intro e response
  have hreach : e.Reachable := ⟨{ policies := [deferring, .policy unnamed] }, e, [], rfl, rfl⟩
  have hflawless : e.Flawless := by
    constructor
    · decide
    · rintro n ⟨k, hk, hkn⟩
      rcases List.mem_cons.mp hk with rfl | hk
      · cases hkn with
        | self => exact fun c hc => absurd hc List.not_mem_nil
        | child hmem hn =>
          obtain rfl := List.mem_singleton.mp hmem
          cases hn
          exact fun c hc => absurd hc List.not_mem_nil
      · obtain rfl := List.mem_singleton.mp hk
        cases hkn
        exact unnamed_patterns
  have h := undisturbed_of_flawless hreach rfl rfl rfl hflawless {}
  exact ⟨by decide +kernel, (h.response {}).1⟩

end Engine

end Arbiter
