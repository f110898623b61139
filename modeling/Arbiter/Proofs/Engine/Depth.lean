import Arbiter.Proofs.Depth
import Arbiter.Proofs.Engine.Locality

namespace Arbiter

namespace Engine

/-- How many references may be open at once. -/
def limit (e : Engine) : Nat := e.settings.engine.maxReferenceDepth

/-- An evaluation comes upon a reference that leads somewhere, when no more may be opened. -/
def Overruns (e : Engine) (r : Request) : Prop :=
  ∃ n ∈ e.settings.engine.rootAlgorithm.visitedIn ((e.scene r).alone e.start)
      e.settings.engine.respectAbandoned (some (e.store.candidates.map some)),
    (e.scene r).Overruns e.start n

/-- Engines over the same nodes that are set up alike, but for their limits. -/
structure DiffersInLimit (e e' : Engine) : Prop where
  respectAbandoned : e.settings.engine.respectAbandoned = e'.settings.engine.respectAbandoned
  rootAlgorithm : e.settings.engine.rootAlgorithm = e'.settings.engine.rootAlgorithm
  target : e.target = e'.target
  condition : e.condition = e'.condition
  finder : e.finder = e'.finder
  nodes : e.store.nodes = e'.store.nodes

/-- Nothing in the answers to a request tells two engines apart. -/
structure AnswersSame (e e' : Engine) (r : Request) : Prop where
  /-- What is computed from the policies is the same to the last lookup. -/
  computed : ∀ t, (e.compute t r).1 = (e'.compute t r).1
  /-- So is what is answered, from the cache or not, but for how it was come by. -/
  evaluated : ∀ t t', (e.evaluate t r).1.response.untimed = (e'.evaluate t' r).1.response.untimed

/-- A chain of references that may be followed from an enabled node. -/
def Chain (e : Engine) (ids : List String) : Prop :=
  ∃ n ∈ e.store.nodes, n.isEnabled ∧ n.Chain e.store.get? ids

/-- No chain of references comes back to one of them. -/
def Acyclic (e : Engine) : Prop :=
  ∀ before id between, ¬ e.Chain (before ++ id :: (between ++ [id]))

/-- No chain of different references is longer than this. -/
def ChainsWithin (e : Engine) (length : Nat) : Prop :=
  ∀ ids, e.Chain ids → ids.Nodup → ids.length ≤ length

/-- No evaluation fails because too many references are open: it comes upon none that is refused, and
there is no path of evaluations from an enabled node to one. -/
structure Unrefused (e : Engine) (r : Request) : Prop where
  visited : ¬ e.Overruns r
  asked : ∀ n ∈ e.store.candidates, ∀ ctx, ctx.fresh = e.start → ∀ k id m ctx',
    (e.scene r).Path (n, ctx) k (.reference id, ctx') → e.store.get? id = some m →
      ctx'.enterReference? ≠ none

variable {e e' : Engine}

namespace DiffersInLimit

theorem symm (hs : e.DiffersInLimit e') : e'.DiffersInLimit e where
  respectAbandoned := hs.respectAbandoned.symm
  rootAlgorithm := hs.rootAlgorithm.symm
  target := hs.target.symm
  condition := hs.condition.symm
  finder := hs.finder.symm
  nodes := hs.nodes.symm

theorem get?_eq (hs : e.DiffersInLimit e') : e.store.get? = e'.store.get? := by
  funext id
  rw [Store.get?, Store.get?, hs.nodes]

theorem chain_iff (hs : e.DiffersInLimit e') (ids : List String) : e.Chain ids ↔ e'.Chain ids := by
  rw [Chain, Chain, hs.nodes, hs.get?_eq]

theorem acyclic (hs : e.DiffersInLimit e') (ha : e.Acyclic) : e'.Acyclic :=
  fun before id between hc => ha before id between ((hs.chain_iff _).mpr hc)

theorem chainsWithin (hs : e.DiffersInLimit e') {length : Nat} (hc : e.ChainsWithin length) :
    e'.ChainsWithin length :=
  fun ids h => hc ids ((hs.chain_iff ids).mpr h)

end DiffersInLimit

theorem compute_eq (e : Engine) (t : Timing) (r : Request) :
    (e.compute t r).1 =
      ⟨{ Response.ofContext r.id (e.verdict r).1 (({} : Context).after (e.verdict r).2) with
          evaluationTimeMs := t.elapsedMs }, (e.verdict r).2.lookups⟩ := by
  obtain ⟨b, hb⟩ := (e.scene r).combineNodes_eq e.settings.engine.rootAlgorithm
    e.settings.engine.respectAbandoned (some (e.store.candidates.map some)) e.start rfl
  have hd : e.decide r =
      ((e.verdict r).1, (e.start.setTargetMatched b).after (e.verdict r).2) := hb
  simp only [compute, hd]
  rw [Response.ofContext_after r.id (e.verdict r).1 _ ({} : Context) (e.verdict r).2]
  rfl

/-- The policies are combined to the same. -/
theorem verdict_eq_of_not_overruns (hs : e.DiffersInLimit e') (hle : e.limit ≤ e'.limit) {r : Request}
    (hl : ¬ e.Overruns r) : e.verdict r = e'.verdict r := by
  have hscene : e.scene r = e'.scene r := by
    rw [scene, scene, hs.target, hs.condition, hs.finder, hs.respectAbandoned, hs.get?_eq]
  have hcandidates : e.store.candidates = e'.store.candidates := by
    rw [Store.candidates, Store.candidates, hs.nodes]
  rw [verdict, verdict, ← hs.rootAlgorithm, ← hs.respectAbandoned, ← hcandidates, ← hscene]
  refine PolicyAlgorithm.outcome_eq_of_visited _ _ (fun _ _ => rfl) fun n hn => ?_
  exact Scene.alone_eq_of_not_overruns hle fun hover => hl ⟨n, hn, hover⟩

theorem answersSame_of_verdict (he : e.Reachable) (he' : e'.Reachable) {r : Request}
    (hv : e.verdict r = e'.verdict r) : e.AnswersSame e' r where
  computed t := by rw [compute_eq, compute_eq, hv]
  evaluated t t' := by
    obtain ⟨h, -⟩ := evaluate_spec he.consistent t r
    obtain ⟨h', -⟩ := evaluate_spec he'.consistent t' r
    rw [h, h', respond_eq, respond_eq, hv]
    exact Response.ofContext_after r.id (e'.verdict r).1 _ _ (e'.verdict r).2

theorem Acyclic.nodup (ha : e.Acyclic) {ids : List String} (hc : e.Chain ids) : ids.Nodup := by
  induction ids using List.reverseRecOn with
  | nil => exact List.nodup_nil
  | append_singleton ids id ih =>
    have hnotMem : id ∉ ids := by
      intro hmem
      obtain ⟨before, between, rfl⟩ := List.append_of_mem hmem
      rw [List.append_assoc, List.cons_append] at hc
      exact ha before id between hc
    obtain ⟨n, hn, henabled, hchain⟩ := hc
    have hfront := ih ⟨n, hn, henabled, hchain.of_append⟩
    exact List.nodup_append.mpr ⟨hfront, List.nodup_singleton id, by
      rintro a ha b hb rfl
      exact hnotMem (List.mem_singleton.mp hb ▸ ha)⟩

/-- Chains that are short enough are never cut off. -/
theorem unrefused_of_acyclic (ha : e.Acyclic) {length : Nat} (hc : e.ChainsWithin length)
    (hle : length ≤ e.limit) (r : Request) : e.Unrefused r := by
  have hshort (n : Node) (hn : n ∈ e.store.candidates) (ids : List String)
      (h : n.Chain e.store.get? ids) : ids.length ≤ e.limit := by
    obtain ⟨hmem, henabled⟩ := Store.mem_candidates.mp hn
    have hchain : e.Chain ids := ⟨n, hmem, henabled, h⟩
    exact (hc ids hchain (ha.nodup hchain)).trans hle
  constructor
  · rintro ⟨n, hn, hover⟩
    have hmem : n ∈ e.store.candidates := by
      simpa [presentIn] using PolicyAlgorithm.mem_of_visitedIn _ hn
    obtain ⟨ids, hchain, hlen⟩ := hover.exists_chain
    have hroom : Scene.room e.start = e.limit := rfl
    have hle := hshort n hmem ids hchain
    omega
  · intro n hn ctx hctx k id m ctx' hpath hres hfull
    have hlast : (Node.reference id).Chain (e.scene r).resolve [id] := .cons (.self id) hres (.nil m)
    obtain ⟨ids, hchain, hlen⟩ := hpath.exists_chain hlast
    have hroom : Scene.room ctx = e.limit := by
      have h : Scene.room ctx.fresh = Scene.room e.start := by rw [hctx]
      exact h
    have hspent : Scene.room ctx' + k = Scene.room ctx := hpath.depth.2.2
    have hnone : Scene.room ctx' = 0 := Scene.room_of_refused hfull
    have hle := hshort n hn ids hchain
    rw [List.length_singleton] at hlen
    omega

/-- Where the limit has a part in answers. -/
structure LimitCountsWhereHit (e e' : Engine) : Prop where
  /-- If no reference is refused, a higher limit changes nothing. -/
  unhit : e.limit ≤ e'.limit → ∀ r, ¬ e.Overruns r → e.AnswersSame e' r
  /-- A limit as high as the longest chain is never hit, and higher ones change nothing. -/
  acyclic : ∀ length, e.Acyclic → e.ChainsWithin length → length ≤ e.limit → length ≤ e'.limit →
    ∀ r, e.Unrefused r ∧ e'.Unrefused r ∧ e.AnswersSame e' r

/-- This holds of all engines, whatever their stores and finders and whatever was done to them before. -/
theorem limit_counts_where_hit (he : e.Reachable) (he' : e'.Reachable) (hs : e.DiffersInLimit e') :
    e.LimitCountsWhereHit e' where
  unhit hle r hl := answersSame_of_verdict he he' (verdict_eq_of_not_overruns hs hle hl)
  acyclic length ha hc hle hle' r := by
    have hu := unrefused_of_acyclic ha hc hle r
    have hu' := unrefused_of_acyclic (hs.acyclic ha) (hs.chainsWithin hc) hle' r
    refine ⟨hu, hu', answersSame_of_verdict he he' ?_⟩
    rcases Nat.le_total e.limit e'.limit with h | h
    · exact verdict_eq_of_not_overruns hs h hu.visited
    · exact (verdict_eq_of_not_overruns hs.symm h hu'.visited).symm

theorem length_chain_referring {e : Engine} {id : String} {p : Policy}
    (hn : ∀ n ∈ e.store.nodes, n.isEnabled → n = referring id)
    (hp : e.store.get? id = some (.policy p)) {ids : List String} (hc : e.Chain ids) :
    ids.length ≤ 1 := by
  obtain ⟨n, hmem, henabled, hchain⟩ := hc
  obtain rfl := hn n hmem henabled
  cases hchain with
  | nil => exact Nat.zero_le 1
  | cons hid hres hrest =>
    cases hid with
    | child hchild hid =>
      obtain rfl := List.mem_singleton.mp hchild
      cases hid
      obtain rfl := Option.some.inj (hp.symm.trans hres)
      cases hrest with
      | nil => exact Nat.le_refl 1
      | cons hid => cases hid

/-- One reference may be open, and one is enough for a set that refers to a policy. -/
theorem limit_counts_where_hit_referring :
    let e : Engine :=
      { settings := { engine := { maxReferenceDepth := 1 } },
        store := ⟨[referring "q", shelved "q" .permit], 2⟩, telemetry := some {} }
    let e' : Engine :=
      { settings := {}, store := ⟨[referring "q", shelved "q" .permit], 2⟩, telemetry := some {} }
    (e.evaluate {} {}).1.response.decision = .permit ∧ e.Unrefused {} ∧ e.AnswersSame e' {} := by
  intro e e'
  have he : e.Reachable :=
    ⟨{ policies := [referring "q", shelved "q" .permit],
       settings := { engine := { maxReferenceDepth := 1 } } }, e, [], rfl, rfl⟩
  have he' : e'.Reachable := ⟨{ policies := [referring "q", shelved "q" .permit] }, e', [], rfl, rfl⟩
  have hn (n : Node) (hmem : n ∈ e.store.nodes) (henabled : n.isEnabled) : n = referring "q" := by
    rcases List.mem_cons.mp hmem with rfl | hmem
    · rfl
    · obtain rfl := List.mem_singleton.mp hmem
      cases henabled
  have hshort {ids : List String} (hc : e.Chain ids) : ids.length ≤ 1 :=
    length_chain_referring hn rfl hc
  have hacyclic : e.Acyclic := by
    intro before id between hc
    have hlen := hshort hc
    simp only [List.length_append, List.length_cons] at hlen
    omega
  have hcounts := limit_counts_where_hit he he' ⟨rfl, rfl, rfl, rfl, rfl, rfl⟩
  obtain ⟨hunrefused, -, hsame⟩ :=
    hcounts.acyclic 1 hacyclic (fun ids hc _ => hshort hc) (by decide) (by decide) {}
  exact ⟨by decide +kernel, hunrefused, hsame⟩

/-- With one more reference on the way it is not enough. -/
example :
    let e : Engine :=
      { settings := { engine := { maxReferenceDepth := 1 } },
        store := ⟨[referring "p",
          .policySet { id := "p", algorithm := some .firstApplicable, enabled := false }
            (some [some (.reference "q")]),
          shelved "q" .permit], 3⟩,
        telemetry := some {} }
    (e.evaluate {} {}).1.response.decision = .indeterminate := by
  decide +kernel

end Engine

end Arbiter
