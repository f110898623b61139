import Arbiter.Proofs.Tree

/-! Where the obligations come from that an evaluation leaves.

A fold that decides an effect leaves what the children of that effect brought which it visited, in
their order, and nothing else. What a child brought is told by its own evaluation, so that the account
goes on through every level of the tree. -/

namespace Arbiter

/-- What an evaluation left that came to `d`: if it decided an effect, then what was brought for it,
all bound to it, and else nothing. -/
structure Leaves (d : Option Decision) (left : List Obligation)
    (brought : Effect → List Obligation) : Prop where
  decided : ∀ e : Effect, d = some e.decision → left = brought e
  bound : ∀ e : Effect, d = some e.decision → ∀ o ∈ left, o.fulfillOn = e
  undecided : (∀ e : Effect, d ≠ some e.decision) → left = []

theorem Notes.Fits.leaves {n : Notes} {d : Decision} (hf : n.Fits d)
    {brought : Effect → List Obligation} (h : ∀ e : Effect, d = e.decision → n.obligations = brought e) :
    Leaves (some d) n.obligations brought where
  decided e hd := h e (Option.some.inj hd)
  bound e hd o ho := by
    have hb := hf.bound o ho
    exact Effect.decision_injective (hb.trans (Option.some.inj hd))
  undecided hd := by
    apply List.eq_nil_iff_forall_not_mem.mpr
    intro o ho
    exact hd o.fulfillOn (congrArg some (hf.bound o ho).symm)

theorem Visit.Sound.leaves {v : Visit} (hs : v.Sound) {brought : Effect → List Obligation}
    (h : ∀ e : Effect, v.decision = some e.decision → v.obligations = brought e) :
    Leaves v.decision v.obligations brought := by
  cases hd : v.decision with
  | none => exact ⟨fun e he => by simp at he, fun e he => by simp at he, fun _ => (hs.cut hd).2⟩
  | some d => exact (hs.fits d hd).leaves fun e he => h e (hd.trans (congrArg some he))

theorem broughtBy_map (e : Effect) (f : α → Visit) (xs : List α) :
    broughtBy e (xs.map f) =
      (xs.filter fun x => (f x).decision = some e.decision).flatMap fun x =>
        obligationsFor e (f x).declared ++ (f x).obligations := by
  simp [broughtBy, List.filter_map, List.flatMap_map, Function.comp_def, Visit.decides, Visit.brings]

namespace RuleAlgorithm

/-- The rules a fold visits in a list as a policy holds it: none if a slot is empty. -/
def visitedIn (a : RuleAlgorithm) (m : Matching) (slots : Option (List (Option Rule))) : List Rule :=
  (allPresent? slots).elim [] (a.visited m)

theorem mem_of_visitedIn {a : RuleAlgorithm} {m : Matching} {slots : Option (List (Option Rule))}
    {r : Rule} (hr : r ∈ a.visitedIn m slots) : r ∈ presentIn slots := by
  unfold visitedIn at hr
  cases hp : allPresent? slots with
  | none => simp [hp] at hr
  | some rs =>
    rw [hp] at hr
    exact mem_presentIn hp ((a.visited_sublist m rs).subset hr)

theorem outcome_obligations (a : RuleAlgorithm) (m : Matching) (slots : Option (List (Option Rule)))
    {e : Effect} (hd : (a.outcome m slots).1 = e.decision) :
    (a.outcome m slots).2.obligations =
      ((a.visitedIn m slots).filter fun r => (r.outcome m).1 = e.decision).flatMap fun r =>
        obligationsFor e r.obligations := by
  unfold outcome visitedIn
  cases hp : allPresent? slots with
  | none =>
    rw [outcome, hp] at hd
    cases e <;> simp [Effect.decision] at hd
  | some rs =>
    rw [outcome, hp] at hd
    have hde : a.decisionOf m rs = e.decision := hd
    simp [hde, closing, broughtBy_map, Rule.visit, Rule.outcome_obligations]

theorem outcome_lookups (a : RuleAlgorithm) (m : Matching) (slots : Option (List (Option Rule))) :
    (a.outcome m slots).2.lookups =
      (a.visitedIn m slots).flatMap fun r => (r.outcome m).2.lookups := by
  unfold outcome visitedIn
  cases allPresent? slots with
  | none => rfl
  | some rs => simp [closing, lookupsOf, Rule.visit, List.flatMap_map]

end RuleAlgorithm

namespace PolicyAlgorithm

variable (f : α → Visit)

theorem rankedOutcome_obligations (rank : List Decision → Decision) (vs : List Visit) {e : Effect}
    (hd : (rankedOutcome rank vs).1 = e.decision) :
    (rankedOutcome rank vs).2.obligations = broughtBy e vs := by
  unfold rankedOutcome at hd ⊢
  split at hd
  · cases e <;> simp [Effect.decision] at hd
  · rename_i h
    have hde : rank (decisionsOf vs) = e.decision := hd
    simp [h, closing, hde]

/-- The search for the one applicable child leaves what that child brought. -/
theorem soleOutcome_obligations (sole : Option Visit) (xs : List α) (hs : ∀ x ∈ xs, (f x).Sound)
    {e : Effect} (hd : (soleOutcome sole (xs.map f)).1 = e.decision) :
    (soleOutcome sole (xs.map f)).2.obligations =
      broughtBy e (sole.toList ++ (searched f sole.isSome xs).map f) := by
  have hi : Decision.indeterminate ≠ e.decision := by cases e <;> decide
  have hna : Decision.notApplicable ≠ e.decision := by cases e <;> decide
  induction xs generalizing sole with
  | nil =>
    cases sole with
    | none => exact absurd hd hna
    | some v => exact rankedOutcome_obligations firstApplying [v] hd
  | cons x xs ih =>
    have hxs : ∀ y ∈ xs, (f y).Sound := fun y hy => hs y (List.mem_cons_of_mem x hy)
    simp only [List.map_cons, soleOutcome, searched] at hd ⊢
    by_cases hn : (f x).decision = none
    · simp only [hn, if_true] at hd
      exact absurd hd hi
    · simp only [hn, if_false] at hd ⊢
      by_cases ha : (f x).applicable = true
      · simp only [ha, if_true] at hd ⊢
        cases sole with
        | some w => exact absurd hd hi
        | none => exact ih (some (f x)) hxs hd
      · simp only [ha] at hd ⊢
        cases hq : (f x).decides .notApplicable with
        | true =>
          have hx : (f x).decision = some .notApplicable := by simpa [Visit.decides] using hq
          have hcons (ws : List Visit) : broughtBy e (f x :: ws) = broughtBy e ws := by
            simp [broughtBy, Visit.decides, hx, hna]
          simp only [hq, if_true] at hd
          simpa [hcons] using ih sole hxs hd
        | false =>
          -- The target could not be evaluated, and then no effect is decided.
          obtain ⟨d, hx⟩ := Option.ne_none_iff_exists'.mp hn
          have hdn : d ≠ .notApplicable := by
            rintro rfl
            simp [Visit.decides, hx] at hq
          simp only [hq, rankedOutcome_lone hx hdn] at hd
          have hde : d = e.decision := hd
          exact absurd ((hs x List.mem_cons_self).applicable e (hx.trans (congrArg some hde))) ha

theorem foldOutcome_obligations (a : PolicyAlgorithm) (ra : Bool) (xs : List α)
    (hs : ∀ x ∈ xs, (f x).Sound) {e : Effect} (hd : (a.foldOutcome f ra xs).1 = e.decision) :
    (a.foldOutcome f ra xs).2.obligations = broughtBy e ((a.visited f ra xs).map f) := by
  unfold foldOutcome at hd ⊢
  cases hr : a.rank? with
  | some rank =>
    rw [hr] at hd
    exact rankedOutcome_obligations rank _ hd
  | none =>
    rw [hr] at hd
    obtain rfl := eq_onlyOneApplicable_of_rank? hr
    exact soleOutcome_obligations f none xs hs hd

/-- The children a fold visits in a list as a policy set holds it: none if a slot is empty. -/
def visitedIn (a : PolicyAlgorithm) (respectAbandoned : Bool) (slots : Option (List (Option α))) :
    List α :=
  (allPresent? slots).elim [] (a.visited f respectAbandoned)

theorem visitedIn_map (g : β → α) (a : PolicyAlgorithm) (ra : Bool) (slots : Option (List (Option β))) :
    a.visitedIn f ra (slots.map (·.map (·.map g))) =
      (a.visitedIn (fun y => f (g y)) ra slots).map g := by
  rw [visitedIn, visitedIn, allPresent?_map]
  cases allPresent? slots with
  | none => rfl
  | some ys => simp [visited_map]

theorem mem_of_visitedIn {a : PolicyAlgorithm} {ra : Bool} {slots : Option (List (Option α))} {x : α}
    (hx : x ∈ a.visitedIn f ra slots) : x ∈ presentIn slots := by
  unfold visitedIn at hx
  cases hp : allPresent? slots with
  | none => simp [hp] at hx
  | some xs =>
    rw [hp] at hx
    exact mem_presentIn hp ((a.visited_sublist ra xs).subset hx)

theorem outcome_obligations (a : PolicyAlgorithm) (ra : Bool) (slots : Option (List (Option α)))
    (hs : ∀ x, (f x).Sound) {e : Effect} (hd : (a.outcome f ra slots).1 = e.decision) :
    (a.outcome f ra slots).2.obligations =
      ((a.visitedIn f ra slots).filter fun x => (f x).decision = some e.decision).flatMap fun x =>
        obligationsFor e (f x).declared ++ (f x).obligations := by
  rw [← broughtBy_map]
  unfold outcome visitedIn
  cases hp : allPresent? slots with
  | none =>
    rw [outcome, hp] at hd
    cases e <;> simp [Effect.decision] at hd
  | some xs =>
    rw [outcome, hp] at hd
    exact foldOutcome_obligations f a ra xs (fun x _ => hs x) hd

theorem outcome_lookups (a : PolicyAlgorithm) (ra : Bool) (slots : Option (List (Option α))) :
    (a.outcome f ra slots).2.lookups = (a.visitedIn f ra slots).flatMap fun x => (f x).lookups := by
  have hl (rank : List Decision → Decision) (vs : List Visit) :
      (rankedOutcome rank vs).2.lookups = lookupsOf vs := by
    unfold rankedOutcome
    split <;> rfl
  unfold outcome visitedIn
  cases allPresent? slots with
  | none => rfl
  | some xs =>
    simp only [Option.elim_some, foldOutcome]
    cases a.rank? <;> simp [hl, lookupsOf, List.flatMap_map]

end PolicyAlgorithm

/-- A node of which the target is screened leaves what the rest of it left. -/
theorem screenedVisit_obligations (m : Matching) (target : Option Condition)
    (out : Option (Decision × Notes)) (declared : List Obligation) (carries : Bool) {e : Effect}
    (hd : (screenedVisit m target out declared carries).decision = some e.decision) :
    ∃ n, out = some (e.decision, n) ∧
      (screenedVisit m target out declared carries).obligations = n.obligations := by
  unfold screenedVisit at hd ⊢
  rcases ht : m.targetOutcome target with ⟨t, n⟩
  rw [ht] at hd
  cases t with
  | unmatched => cases e <;> simp [Effect.decision] at hd
  | indeterminate => cases e <;> simp [Effect.decision] at hd
  | matched =>
    cases out with
    | none => simp at hd
    | some o =>
      obtain ⟨d, k⟩ := o
      obtain rfl : d = e.decision := by simpa using hd
      exact ⟨k, rfl, rfl⟩

/-- A policy set may bring obligations that it declares itself, or those of a child. -/
theorem Node.carries_policySet (h : PolicySetHeader) (children : Option (List (Option Node))) :
    (policySet h children).carriesObligations =
      (!h.obligations.isEmpty || (presentIn children).any (·.carriesObligations)) := by
  have hslots (slots : List (Option Node)) :
      slotsCarry slots = (presentIn (some slots)).any (·.carriesObligations) := by
    induction slots with
    | nil => rfl
    | cons slot slots ih => cases slot <;> simp [slotsCarry, slotCarries, ih, presentIn]
  cases children with
  | none => simp [carriesObligations, childrenCarry, presentIn]
  | some slots => rw [carriesObligations, childrenCarry, hslots]

namespace Scene

/-- A node that declares nothing brings nothing if the rest of it leaves nothing. -/
theorem screenedVisit_brings_eq_nil (m : Matching) (target : Option Condition)
    {out : Option (Decision × Notes)} (carries : Bool) {e : Effect}
    (hd : (screenedVisit m target out [] carries).decision = some e.decision)
    (ho : ∀ n, out = some (e.decision, n) → n.obligations = []) :
    (screenedVisit m target out [] carries).brings e = [] := by
  obtain ⟨n, hout, hleft⟩ := screenedVisit_obligations m target out [] carries hd
  obtain ⟨hdeclared, -⟩ := Node.screenedVisit_given m target out [] carries
  rw [Visit.brings, hdeclared, hleft, ho n hout]
  rfl

/-- What carries no obligations brings none, so nothing is lost where a fold skips it. -/
theorem brings_eq_nil (s : Scene) (ctx : Context) (n : Node) (hn : n.carriesObligations = false)
    {e : Effect} (hd : (s.alone ctx n).decision = some e.decision) : (s.alone ctx n).brings e = [] := by
  induction ctx, n using s.induct with
  | policy ctx p =>
    obtain ⟨hown, hrules⟩ : p.obligations = [] ∧ ∀ r ∈ presentIn p.rules, r.obligations = [] := by
      simpa [Node.carriesObligations, Policy.carriesObligations, Policy.presentRules,
        Rule.carriesObligations] using hn
    rw [alone_policy, Policy.visit, hown] at hd ⊢
    apply screenedVisit_brings_eq_nil _ _ _ hd
    intro n hout
    obtain ⟨a, -, hdn⟩ := Option.map_eq_some_iff.mp hout
    have hob := a.outcome_obligations s.matching p.rules (congrArg (·.1) hdn)
    rw [hdn] at hob
    rw [hob, List.flatMap_eq_nil_iff]
    intro r hr
    rw [hrules r (RuleAlgorithm.mem_of_visitedIn (List.mem_filter.mp hr).1), obligationsFor_nil]
  | policySet ctx h children ih =>
    obtain ⟨hown, hchildren⟩ :
        h.obligations = [] ∧ ∀ n ∈ presentIn children, n.carriesObligations = false := by
      simpa [Node.carries_policySet] using hn
    rw [alone_policySet, hown] at hd ⊢
    apply screenedVisit_brings_eq_nil _ _ _ hd
    intro n hout
    obtain ⟨a, -, hdn⟩ := Option.map_eq_some_iff.mp hout
    have hob := a.outcome_obligations (s.alone ctx) s.respectAbandoned children (s.alone_sound ctx)
      (congrArg (·.1) hdn)
    rw [hdn] at hob
    rw [hob, List.flatMap_eq_nil_iff]
    intro m hm
    obtain ⟨hvis, hdec⟩ := List.mem_filter.mp hm
    have hpresent := PolicyAlgorithm.mem_of_visitedIn (s.alone ctx) hvis
    exact ih m hpresent (hchildren m hpresent) (by simpa using hdec)
  | reference ctx id => cases hn

theorem broughtBy_eq_nil (s : Scene) (ctx : Context) {n : Node} (hn : n.carriesObligations = false)
    (e : Effect) : broughtBy e [s.alone ctx n] = [] := by
  cases hd : (s.alone ctx n).decides e.decision with
  | false => simp [broughtBy, hd]
  | true =>
    have hb := s.brings_eq_nil ctx n hn (e := e) (by simpa [Visit.decides] using hd)
    simpa [broughtBy, hd] using hb

/-- Where obligations come from, on a context that holds none yet.

The children of a fold are told by what they come to alone, on a fresh context of the same depth. A
fold leaves what those of them brought that decided as it did: for a rule what it declares, for a node
what it declares, and then what its own evaluation left. -/
structure Provenance (s : Scene) (ctx : Context) : Prop where
  rules : ∀ (a : RuleAlgorithm) (slots : Option (List (Option Rule))),
    Leaves (some (s.combineRules a slots ctx).1) (s.combineRules a slots ctx).2.obligations fun e =>
      ((a.visitedIn s.matching slots).filter fun r =>
        (r.evaluate s.matching ctx.fresh).1 = e.decision).flatMap fun r =>
          obligationsFor e r.obligations
  rulesVisited : ∀ (a : RuleAlgorithm) (slots : Option (List (Option Rule))),
    (s.combineRules a slots ctx).2.lookups =
      ctx.lookups ++ (a.visitedIn s.matching slots).flatMap fun r =>
        (r.evaluate s.matching ctx.fresh).2.lookups
  /-- Whether this fold respects abandoned children need not be as in the scene. -/
  nodes : ∀ (a : PolicyAlgorithm) (ra : Bool) (slots : Option (List (Option Node))),
    let out := a.combine ra (slots.map (·.map (·.map (s.childWithin (room ctx))))) ctx
    Leaves (some out.1) out.2.obligations fun e =>
      ((a.visitedIn (s.alone ctx) ra slots).filter fun n =>
        (s.evaluateNode n ctx.fresh).1 = some e.decision).flatMap fun n =>
          obligationsFor e n.obligations ++ (s.evaluateNode n ctx.fresh).2.obligations
  nodesVisited : ∀ (a : PolicyAlgorithm) (ra : Bool) (slots : Option (List (Option Node))),
    let out := a.combine ra (slots.map (·.map (·.map (s.childWithin (room ctx))))) ctx
    out.2.lookups =
      ctx.lookups ++ (a.visitedIn (s.alone ctx) ra slots).flatMap fun n =>
        (s.evaluateNode n ctx.fresh).2.lookups
  policy : ∀ p : Policy,
    Leaves (s.evaluateNode (.policy p) ctx.fresh).1 (s.evaluateNode (.policy p) ctx.fresh).2.obligations
      fun _ => p.algorithm.elim [] fun a => (s.combineRules a p.rules ctx.fresh).2.obligations
  policySet : ∀ (h : PolicySetHeader) (children : Option (List (Option Node))),
    Leaves (s.evaluateNode (.policySet h children) ctx.fresh).1
      (s.evaluateNode (.policySet h children) ctx.fresh).2.obligations
      fun _ => h.algorithm.elim [] fun a => (s.combineNodes a children ctx.fresh).2.obligations
  /-- The node that a reference leads to is evaluated one reference deeper. What it declares comes last. -/
  reference : ∀ id : String,
    Leaves (s.evaluateNode (.reference id) ctx.fresh).1
      (s.evaluateNode (.reference id) ctx.fresh).2.obligations fun e =>
        match s.resolve id, ctx.fresh.enterReference? with
        | some n, some inner => (s.evaluateNode n inner).2.obligations ++ obligationsFor e n.obligations
        | _, _ => []

/-- Every obligation an evaluation leaves comes from a declaration, by a path of nodes and rules that
all decided as the evaluation did, and it comes once for each such path. -/
theorem obligations_provenance (s : Scene) (ctx : Context) (ho : ctx.obligations = []) :
    s.Provenance ctx where
  rules a slots := by
    simp only [s.combineRules_eq a slots ho, Rule.evaluate_fresh]
    exact (a.outcome_fits s.matching slots).leaves fun e hd => a.outcome_obligations s.matching slots hd
  rulesVisited a slots := by
    simp only [s.combineRules_eq a slots ho, Rule.evaluate_fresh]
    show ctx.lookups ++ (a.outcome s.matching slots).2.lookups = _
    rw [a.outcome_lookups]
    simp [Context.after, Context.fresh]
  nodes a ra slots := by
    obtain ⟨b, hb⟩ := s.combineNodes_eq a ra slots ctx ho
    simp only [hb]
    have hf := a.outcome_fits ra slots fun _ _ n _ => s.alone_sound ctx n
    exact hf.leaves fun e hd => a.outcome_obligations (s.alone ctx) ra slots (s.alone_sound ctx) hd
  nodesVisited a ra slots := by
    obtain ⟨b, hb⟩ := s.combineNodes_eq a ra slots ctx ho
    simp only [hb]
    show ctx.lookups ++ (a.outcome (s.alone ctx) ra slots).2.lookups = _
    rw [a.outcome_lookups]
    rfl
  policy p := by
    apply (s.alone_sound ctx (.policy p)).leaves
    intro e hd
    rw [alone_policy] at hd ⊢
    obtain ⟨n, hout, hn⟩ := screenedVisit_obligations _ _ _ _ _ hd
    obtain ⟨a, ha, hdn⟩ := Option.map_eq_some_iff.mp hout
    rw [Policy.visit, hn, ha, Option.elim_some, s.combineRules_eq a p.rules rfl, hdn]
    rfl
  policySet h children := by
    apply (s.alone_sound ctx (.policySet h children)).leaves
    intro e hd
    rw [alone_policySet] at hd ⊢
    obtain ⟨n, hout, hn⟩ := screenedVisit_obligations _ _ _ _ _ hd
    obtain ⟨a, ha, hdn⟩ := Option.map_eq_some_iff.mp hout
    have hfresh : a.outcome (s.alone ctx.fresh) s.respectAbandoned children = (e.decision, n) := hdn
    obtain ⟨b, hb⟩ := s.combineNodes_eq a s.respectAbandoned children ctx.fresh rfl
    rw [hn, ha, Option.elim_some, combineNodes, hb, hfresh]
    rfl
  reference id := by
    apply (s.alone_sound ctx (.reference id)).leaves
    intro e hd
    rw [alone_reference] at hd ⊢
    cases hr : s.resolve id with
    | none =>
      rw [hr] at hd
      cases e <;> simp [lostVisit, Effect.decision] at hd
    | some n =>
      rw [hr] at hd
      cases hi : ctx.fresh.enterReference? with
      | none =>
        rw [hi] at hd
        cases e <;> simp [lostVisit, Effect.decision] at hd
      | some inner =>
        rw [hi] at hd
        have hfresh : inner.fresh = inner := Context.fresh_of_enterReference? hi
        have hv : (s.evaluateNode n inner).1 = some e.decision := by
          rw [← hfresh]
          exact hd
        simp [foundVisit, alone, hfresh, hv]

/-- Two policies deny, one of them behind a reference, and what the one between them brings is lost. -/
theorem obligations_provenance_denied :
    ({ Scene.leadingTo (.policy (.always "q" .deny ["audit"])) with
        respectAbandoned := true }.combineNodes .denyOverrides
      (some [some (.policy (.always "p" .deny ["notify"])), some (.policy (.always "r" .permit ["log"])),
        some (.reference "q")]) {}).2.obligations =
      [⟨"notify", .deny, []⟩, ⟨"audit", .deny, []⟩] := by
  have hp := obligations_provenance
    { Scene.leadingTo (.policy (.always "q" .deny ["audit"])) with respectAbandoned := true } {} rfl
  have hl := (hp.nodes .denyOverrides true
    (some [some (.policy (.always "p" .deny ["notify"])), some (.policy (.always "r" .permit ["log"])),
      some (.reference "q")])).decided .deny (by decide)
  exact hl.trans (by decide)

end Scene

end Arbiter
