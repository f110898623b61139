import Arbiter.Proofs.Engine.Transparency
import Arbiter.Proofs.Ranking

namespace Arbiter

namespace PolicyAlgorithm

variable (f : α → Visit) (ra : Bool) (xs : List α)

/-- The decision of a fold that overrides by deny. -/
def denyDecision : Decision :=
  (rankedOutcome (foremost (rankOrder .deny)) ((reached f .deny ra false xs).map f)).1

theorem denyDecision_of_settled {x : α} (hx : x ∈ xs)
    (h : (f x).decision = none ∨ (f x).decision = some .deny) :
    denyDecision f ra xs = .deny ∨ denyDecision f ra xs = .indeterminate := by
  obtain ⟨y, hy, hd⟩ := exists_reached f .deny ra hx h
  unfold denyDecision rankedOutcome
  split
  · exact .inr rfl
  · rename_i hn
    rcases hd with hd | hd
    · exact absurd (List.any_eq_true.mpr ⟨f y, List.mem_map_of_mem hy, by simp [hd]⟩) hn
    · exact .inl (foremost_winner ((mem_decisionsOf f).mpr ⟨y, hy, hd⟩))

theorem denyDecision_of_open (hn : ∀ x ∈ xs, (f x).decision ≠ none) :
    denyDecision f ra xs = foremost (rankOrder .deny) (decisionsOf (xs.map f)) :=
  foldOutcome_decision f .denyOverrides rfl ra hn

/-- Of a fold that ends neither in deny nor in a fault, every child was evaluated, and each of them
permits or does not apply. -/
theorem clean_of_denyDecision (h : denyDecision f ra xs ≠ .deny)
    (h' : denyDecision f ra xs ≠ .indeterminate) :
    ∀ x ∈ xs, (f x).decision = some .permit ∨ (f x).decision = some .notApplicable := by
  have hopen : ∀ x ∈ xs, (f x).decision ≠ none := by
    intro x hx hd
    exact (denyDecision_of_settled f ra xs hx (.inl hd)).elim h h'
  have heq := denyDecision_of_open f ra xs hopen
  intro x hx
  have hmem {d : Decision} (hd : (f x).decision = some d) : d ∈ decisionsOf (xs.map f) :=
    (mem_decisionsOf f).mpr ⟨x, hx, hd⟩
  cases hd : (f x).decision with
  | none => exact absurd hd (hopen x hx)
  | some d =>
    cases d with
    | permit => exact .inl rfl
    | notApplicable => exact .inr rfl
    | deny => exact absurd (heq.trans (foremost_winner (hmem hd))) h
    | indeterminate =>
      have hno : .deny ∉ decisionsOf (xs.map f) := fun hm => h (heq.trans (foremost_winner hm))
      exact absurd (heq.trans (by simp [foremost, rankOrder, hno, hmem hd])) h'

/-- A list of children that permit or do not apply is told by whether one of them permits. -/
theorem denyDecision_of_clean
    (h : ∀ x ∈ xs, (f x).decision = some .permit ∨ (f x).decision = some .notApplicable) :
    denyDecision f ra xs =
      if ∃ x ∈ xs, (f x).decision = some .permit then .permit else .notApplicable := by
  have hopen : ∀ x ∈ xs, (f x).decision ≠ none := by
    intro x hx hd
    simpa [hd] using h x hx
  have hno {d : Decision} (hp : d ≠ .permit) (hn : d ≠ .notApplicable) :
      d ∉ decisionsOf (xs.map f) := by
    rintro hm
    obtain ⟨x, hx, hd⟩ := (mem_decisionsOf f).mp hm
    rcases h x hx with hx' | hx' <;> simp_all
  have hd := hno (d := .deny) (by decide) (by decide)
  have hi := hno (d := .indeterminate) (by decide) (by decide)
  rw [denyDecision_of_open f ra xs hopen]
  simp only [foremost, rankOrder, ← mem_decisionsOf]
  by_cases hp : .permit ∈ decisionsOf (xs.map f) <;> simp [hd, hi, hp]

theorem denyDecision_eq_permit :
    denyDecision f ra xs = .permit ↔
      (∃ x ∈ xs, (f x).decision = some .permit) ∧
        ∀ x ∈ xs, (f x).decision = some .permit ∨ (f x).decision = some .notApplicable := by
  constructor
  · intro h
    have hall := clean_of_denyDecision f ra xs (by simp [h]) (by simp [h])
    refine ⟨?_, hall⟩
    by_contra hp
    rw [denyDecision_of_clean f ra xs hall, if_neg hp] at h
    cases h
  · rintro ⟨hp, hall⟩
    rw [denyDecision_of_clean f ra xs hall, if_pos hp]

theorem denyDecision_eq_notApplicable :
    denyDecision f ra xs = .notApplicable ↔ ∀ x ∈ xs, (f x).decision = some .notApplicable := by
  constructor
  · intro h
    have hall := clean_of_denyDecision f ra xs (by simp [h]) (by simp [h])
    intro x hx
    rcases hall x hx with hp | hn
    · rw [denyDecision_of_clean f ra xs hall, if_pos ⟨x, hx, hp⟩] at h
      cases h
    · exact hn
  · intro h
    rw [denyDecision_of_clean f ra xs fun x hx => .inr (h x hx)]
    apply if_neg
    rintro ⟨x, hx, hp⟩
    simp [h x hx] at hp

end PolicyAlgorithm

namespace Scene

/-- Whether the target of a node matches, but there is no algorithm to combine what it holds. -/
def Headless (s : Scene) (ctx : Context) : Node → Prop
  | .policy p => p.algorithm = none ∧ (s.matching.matchTarget p.target ctx).1 = .matched
  | .policySet h _ => h.algorithm = none ∧ (s.matching.matchTarget h.target ctx).1 = .matched
  | .reference _ => False

theorem screened_headless {m : Matching} {target : Option Condition} {algorithm : Option α}
    (combine : α → Context → Decision × Context) {ctx : Context} (ha : algorithm = none)
    (ht : (m.matchTarget target ctx).1 = .matched) :
    (screened m target (decideBy algorithm combine) ctx).1 = none := by
  unfold screened
  rcases hm : m.matchTarget target ctx with ⟨t, ctx'⟩
  rw [hm] at ht
  obtain rfl : t = .matched := ht
  simp [decideBy, ha]

theorem evaluateNode_of_headless {s : Scene} {ctx : Context} {n : Node} (h : s.Headless ctx n) :
    (s.evaluateNode n ctx).1 = none := by
  unfold evaluateNode
  cases n with
  | policy p =>
    have hrun := screened_headless (fun a ctx => a.combine s.matching p.rules ctx) h.1 h.2
    cases room ctx <;> exact hrun
  | policySet header children =>
    cases room ctx <;> exact screened_headless _ h.1 h.2
  | reference id => exact h.elim

end Scene

namespace Engine

/-- What a node decides alone on a request, if anything. -/
def decisionAlone (e : Engine) (r : Request) (n : Node) : Option Decision :=
  ((e.scene r).evaluateNode n e.start).1

section

variable {e : Engine} (h : e.Reachable)
  (ha : e.settings.engine.rootAlgorithm = .denyOverrides ∨
    e.settings.engine.rootAlgorithm = .orderedDenyOverrides) (t : Timing) (r : Request)

include h ha

theorem decision_eq_denyDecision :
    (e.evaluate t r).1.response.decision =
      PolicyAlgorithm.denyDecision ((e.scene r).alone e.start) e.settings.engine.respectAbandoned
        e.store.candidates := by
  obtain ⟨hr, -, -⟩ := evaluate_spec h.consistent t r
  have hv : (e.verdict r).1 =
      PolicyAlgorithm.denyDecision ((e.scene r).alone e.start) e.settings.engine.respectAbandoned
        e.store.candidates := by
    rcases ha with ha | ha <;>
      simp only [verdict, ha, PolicyAlgorithm.outcome, allPresent?_map_some] <;> rfl
  rw [← hv, ← e.respond_decision, ← hr]
  rfl

theorem decision_eq_permit :
    (e.evaluate t r).1.response.decision = .permit ↔
      (∃ n ∈ e.store.nodes, n.isEnabled ∧ e.decisionAlone r n = some .permit) ∧
        ∀ n ∈ e.store.nodes, n.isEnabled →
          e.decisionAlone r n = some .permit ∨ e.decisionAlone r n = some .notApplicable := by
  have halone (n : Node) : ((e.scene r).alone e.start n).decision = e.decisionAlone r n := rfl
  rw [decision_eq_denyDecision h ha, PolicyAlgorithm.denyDecision_eq_permit]
  simp only [Store.mem_candidates, halone, and_imp, and_assoc]

theorem decision_eq_notApplicable :
    (e.evaluate t r).1.response.decision = .notApplicable ↔
      ∀ n ∈ e.store.nodes, n.isEnabled → e.decisionAlone r n = some .notApplicable := by
  have halone (n : Node) : ((e.scene r).alone e.start n).decision = e.decisionAlone r n := rfl
  rw [decision_eq_denyDecision h ha, PolicyAlgorithm.denyDecision_eq_notApplicable]
  simp only [Store.mem_candidates, halone, and_imp]

end

/-- A root that overrides by deny permits if and only if some enabled node permits alone and all others
permit or do not apply, and it does not apply if and only if none of them does. So one node that denies
or fails rules out both, as does one that applies and has no algorithm. -/
theorem failSafe_of_denyOverrides (e : Engine) (h : e.Reachable)
    (ha : e.settings.engine.rootAlgorithm = .denyOverrides ∨
      e.settings.engine.rootAlgorithm = .orderedDenyOverrides) (t : Timing) (r : Request) :
    ((e.evaluate t r).1.response.decision = .permit ↔
      (∃ n ∈ e.store.nodes, n.isEnabled ∧ e.decisionAlone r n = some .permit) ∧
        ∀ n ∈ e.store.nodes, n.isEnabled →
          e.decisionAlone r n = some .permit ∨ e.decisionAlone r n = some .notApplicable) ∧
    ((e.evaluate t r).1.response.decision = .notApplicable ↔
      ∀ n ∈ e.store.nodes, n.isEnabled → e.decisionAlone r n = some .notApplicable) ∧
    ∀ n ∈ e.store.nodes, n.isEnabled →
      e.decisionAlone r n = some .deny ∨ e.decisionAlone r n = some .indeterminate ∨
          (e.scene r).Headless e.start n →
        (e.evaluate t r).1.response.decision ≠ .permit ∧
          (e.evaluate t r).1.response.decision ≠ .notApplicable := by
  have hpermit := decision_eq_permit h ha t r
  have hna := decision_eq_notApplicable h ha t r
  refine ⟨hpermit, hna, ?_⟩
  intro n hn hen hbad
  have hneither : e.decisionAlone r n ≠ some .permit ∧ e.decisionAlone r n ≠ some .notApplicable := by
    rcases hbad with hdeny | hfail | hless
    · simp [hdeny]
    · simp [hfail]
    · simp [decisionAlone, Scene.evaluateNode_of_headless hless]
  constructor
  · intro hp
    exact ((hpermit.mp hp).2 n hn hen).elim hneither.1 hneither.2
  · intro hq
    exact hneither.2 (hna.mp hq n hn hen)

/-- One policy permits, and one has no algorithm. -/
theorem failSafe_of_denyOverrides_cut :
    (evaluate { settings := {}, store := ⟨[.policy (.always "p" .permit []), .policy (.ofId "q")], 2⟩,
                telemetry := some {} } {} {}).1.response.decision ≠ .permit := by
  have hreach : Reachable
      { settings := {}, store := ⟨[.policy (.always "p" .permit []), .policy (.ofId "q")], 2⟩,
        telemetry := some {} } :=
    ⟨{ policies := [.policy (.always "p" .permit []), .policy (.ofId "q")] }, _, [], rfl, rfl⟩
  have hsafe := (failSafe_of_denyOverrides _ hreach (.inl rfl) {} {}).2.2
  have hq := hsafe (.policy (.ofId "q")) (List.mem_cons_of_mem _ List.mem_cons_self) rfl
    (.inr (.inr ⟨rfl, rfl⟩))
  exact hq.1

end Engine

end Arbiter
