import Arbiter.Proofs.Combining.Children
import Arbiter.Proofs.Combining.Rules

namespace Arbiter

theorem allPresent?_eq_some {slots : Option (List (Option α))} {xs : List α}
    (h : allPresent? slots = some xs) : slots = some (xs.map some) := by
  cases slots with
  | none => simp [allPresent?] at h
  | some ss =>
    simp only [allPresent?] at h
    induction ss generalizing xs with
    | nil => simp_all
    | cons s ss ih =>
      cases s with
      | none => simp at h
      | some x =>
        cases hm : ss.mapM id with
        | none => simp [hm] at h
        | some ys =>
          obtain rfl : x :: ys = xs := by simpa [hm] using h
          simpa using ih hm

theorem mem_presentIn {slots : Option (List (Option α))} {xs : List α}
    (h : allPresent? slots = some xs) {x : α} (hx : x ∈ xs) : x ∈ presentIn slots := by
  rw [allPresent?_eq_some h]
  simpa [presentIn] using hx

theorem presentIn_map (g : α → β) (slots : Option (List (Option α))) :
    presentIn (slots.map (·.map (·.map g))) = (presentIn slots).map g := by
  cases slots with
  | none => rfl
  | some slots => simp [presentIn, List.filterMap_map, List.map_filterMap]

theorem mem_presentIn_map (g : α → β) {slots : Option (List (Option α))} {x : α}
    (hx : x ∈ presentIn slots) : g x ∈ presentIn (slots.map (·.map (·.map g))) := by
  rw [presentIn_map]
  exact List.mem_map_of_mem hx

/-- Only the present elements of a list of slots are mapped. -/
theorem map_slots_congr {f g : α → β} {slots : Option (List (Option α))}
    (h : ∀ x ∈ presentIn slots, f x = g x) :
    slots.map (·.map (·.map f)) = slots.map (·.map (·.map g)) := by
  cases slots with
  | none => rfl
  | some xs =>
    have hxs : xs.map (·.map f) = xs.map (·.map g) := by
      apply List.map_congr_left
      intro slot hslot
      cases slot with
      | none => rfl
      | some x => exact congrArg some (h x (List.mem_filterMap.mpr ⟨some x, hslot, rfl⟩))
    simp only [Option.map_some, hxs]

namespace Node

/-- Induction over trees: what holds of all nodes present beneath a policy set holds of the set. -/
theorem induct {P : Node → Prop} (hp : ∀ p, P (policy p))
    (hs : ∀ h children, (∀ n ∈ presentIn children, P n) → P (policySet h children))
    (hr : ∀ id, P (reference id)) (n : Node) : P n := by
  apply @Node.rec P (fun children => ∀ n ∈ presentIn children, P n)
    (fun slots => ∀ n ∈ presentIn (some slots), P n) (fun slot => ∀ n ∈ slot, P n)
  · exact hp
  · exact hs
  · exact hr
  · intro n hn
    exact absurd hn List.not_mem_nil
  · intro slots ih
    exact ih
  · intro n hn
    exact absurd hn List.not_mem_nil
  · intro slot slots hslot ih n hn
    cases slot with
    | none => exact ih n hn
    | some m =>
      rcases List.mem_cons.mp hn with rfl | hn
      · exact hslot n rfl
      · exact ih n hn
  · intro n hn
    cases hn
  · intro m hm n hn
    cases hn
    exact hm

end Node

/-- What a node comes to whose target is screened before the rest is run. There is no rest if the node
has no algorithm. -/
def screenedVisit (m : Matching) (target : Option Condition) (rest : Option (Decision × Notes))
    (declared : List Obligation) (carries : Bool) : Visit :=
  match m.targetOutcome target with
  | (.unmatched, n) => ⟨n, some .notApplicable, declared, carries, false⟩
  | (.indeterminate, n) => ⟨n, some .indeterminate, declared, carries, false⟩
  | (.matched, n) =>
    match rest with
    | none => ⟨n, none, declared, carries, false⟩
    | some (d, k) => ⟨k.following n.lookups, some d, declared, carries, true⟩

def Policy.visit (s : Scene) (p : Policy) : Visit :=
  screenedVisit s.matching p.target (p.algorithm.map fun a => a.outcome s.matching p.rules)
    p.obligations p.carriesObligations

namespace Scene

/-- What a reference comes to that leads nowhere, or too deep. -/
def lostVisit : Visit := ⟨{ codes := [.processingError] }, some .indeterminate, [], true, false⟩

/-- What a reference comes to that leads to a node of this visit. If the node decides, the obligations
it declares itself follow those its evaluation left. -/
def foundVisit (node : Node) (v : Visit) : Visit :=
  let own := match v.decision.bind (·.effect?) with
    | none => []
    | some e => obligationsFor e node.obligations
  ⟨{ v.toNotes with obligations := v.obligations ++ own }, v.decision, [], true, v.applicable⟩

/-- What a reference comes to, `visitOf` telling what the nodes come to that it may lead to. -/
def followedVisit (s : Scene) (visitOf : Option (Node → Visit)) (id : String) : Visit :=
  match s.resolve id, visitOf with
  | some node, some f => foundVisit node (f node)
  | _, _ => lostVisit

end Scene

namespace Node

mutual

/-- What a node comes to, `visitOf` telling what those do that references lead to, if any may be
followed. -/
def visit (s : Scene) (visitOf : Option (Node → Visit)) : Node → Visit
  | policy p => p.visit s
  | policySet h children =>
    screenedVisit s.matching h.target
      (h.algorithm.map fun a => a.outcome (fun v => v) s.respectAbandoned (visitsOf s visitOf children))
      h.obligations (policySet h children).carriesObligations
  | reference id => s.followedVisit visitOf id

def visitsOf (s : Scene) (visitOf : Option (Node → Visit)) :
    Option (List (Option Node)) → Option (List (Option Visit))
  | none => none
  | some slots => some (slotVisits s visitOf slots)

def slotVisits (s : Scene) (visitOf : Option (Node → Visit)) : List (Option Node) → List (Option Visit)
  | [] => []
  | slot :: slots => slotVisit s visitOf slot :: slotVisits s visitOf slots

def slotVisit (s : Scene) (visitOf : Option (Node → Visit)) : Option Node → Option Visit
  | none => none
  | some n => some (n.visit s visitOf)

end

theorem visitsOf_eq_map (s : Scene) (visitOf : Option (Node → Visit))
    (children : Option (List (Option Node))) :
    visitsOf s visitOf children = children.map (·.map (·.map (·.visit s visitOf))) := by
  cases children with
  | none => rfl
  | some slots =>
    rw [visitsOf]
    induction slots with
    | nil => rfl
    | cons slot slots ih =>
      rw [slotVisits, Option.some.inj ih]
      cases slot <;> rfl

theorem childrenOf_eq_map (s : Scene) (childOf : Node → Child) (children : Option (List (Option Node))) :
    childrenOf s childOf children = children.map (·.map (·.map (·.child s childOf))) := by
  cases children with
  | none => rfl
  | some slots =>
    rw [childrenOf]
    induction slots with
    | nil => rfl
    | cons slot slots ih =>
      rw [slotsOf, Option.some.inj ih]
      cases slot <;> rfl

/-- A policy set comes to what its children come to, whatever stands for them. -/
theorem visit_policySet (s : Scene) (visitOf : Option (Node → Visit)) (h : PolicySetHeader)
    (children : Option (List (Option Node))) :
    (policySet h children).visit s visitOf =
      screenedVisit s.matching h.target
        (h.algorithm.map fun a => a.outcome (·.visit s visitOf) s.respectAbandoned children)
        h.obligations (policySet h children).carriesObligations := by
  simp only [visit, visitsOf_eq_map, PolicyAlgorithm.outcome_map]

end Node

namespace Scene

/-- What a node comes to when so many more references may be opened. -/
def visitWithin (s : Scene) : Nat → Node → Visit
  | 0, n => n.visit s none
  | k + 1, n => n.visit s (some (s.visitWithin k))

end Scene

/-- A node of which the target is screened, given what the rest of it comes to. -/
theorem screened_eq (m : Matching) (target : Option Condition) {room : Nat}
    {rest : Context → Option Decision × Context} {out : Option (Decision × Notes)}
    (hn : out = none → ∀ ctx, rest ctx = (none, ctx))
    (ho : ∀ d n, out = some (d, n) → ∀ ctx, Scene.room ctx = room → ctx.obligations = [] →
      ∃ b, rest ctx = (some d, (ctx.setTargetMatched b).after n))
    (declared : List Obligation) (carries : Bool) (ctx : Context) (hr : Scene.room ctx = room) :
    screened m target rest (ctx.after {}) = (screenedVisit m target out declared carries).result ctx := by
  have hq := m.targetOutcome_quiet target
  simp only [screened, m.matchTarget_after, screenedVisit]
  rcases ht : m.targetOutcome target with ⟨t, n⟩
  rw [ht] at hq
  cases t with
  | unmatched => simp [Visit.result, Visit.flag]
  | indeterminate => simp [Visit.result, Visit.flag]
  | matched =>
    obtain ⟨ds, rfl⟩ : ∃ ds, n = { lookups := ds } := ⟨n.lookups, hq (by simp)⟩
    cases out with
    | none =>
      simp only [hn rfl]
      rfl
    | some o =>
      obtain ⟨d, k⟩ := o
      obtain ⟨b, hb⟩ := ho d k rfl (ctx.after { lookups := ds }) hr rfl
      simp [hb, Visit.result, Visit.flag]

theorem screenedVisit_sound (m : Matching) (target : Option Condition)
    {out : Option (Decision × Notes)} (ho : ∀ d n, out = some (d, n) → n.Fits d)
    (declared : List Obligation) (carries : Bool) :
    (screenedVisit m target out declared carries).Sound := by
  have hob := m.targetOutcome_obligations target
  have hcodes := m.targetOutcome_codes target
  simp only [screenedVisit]
  rcases ht : m.targetOutcome target with ⟨t, n⟩
  rw [ht] at hob hcodes
  have hfit (d : Decision) : n.Fits d := ⟨fun o h => by simp_all, hcodes⟩
  have hne (d : Decision) (hd : d.effect? = none) (e : Effect) : some d ≠ some e.decision := by
    intro h
    simp [Option.some.inj h] at hd
  cases t with
  | unmatched => exact ⟨fun d _ => hfit d, fun e he => absurd he (hne _ rfl e), fun h => by simp at h⟩
  | indeterminate =>
    exact ⟨fun d _ => hfit d, fun e he => absurd he (hne _ rfl e), fun h => by simp at h⟩
  | matched =>
    cases out with
    | none => exact ⟨fun d hd => by simp at hd, fun _ he => by simp at he, fun _ => ⟨rfl, hob⟩⟩
    | some o =>
      obtain ⟨d, k⟩ := o
      have hk := ho d k rfl
      refine ⟨?_, fun _ _ => rfl, fun h => by simp at h⟩
      intro d' hd
      obtain rfl : d = d' := by simpa using hd
      exact ⟨hk.bound, hk.codes_ne_ok⟩

namespace Policy

theorem run_eq (s : Scene) (p : Policy) (ctx : Context) :
    p.run s (ctx.after {}) = (p.visit s).result ctx := by
  refine screened_eq s.matching p.target ?_ ?_ p.obligations p.carriesObligations ctx rfl
  · intro h ctx
    rw [Option.map_eq_none_iff.mp h]
    rfl
  · intro d n h ctx _ ho
    obtain ⟨a, ha, hdn⟩ := Option.map_eq_some_iff.mp h
    refine ⟨ctx.targetMatched, ?_⟩
    simp only [decideBy, ha, a.combine_eq s.matching p.rules ctx ho, hdn]
    rfl

theorem visit_sound (s : Scene) (p : Policy) : (p.visit s).Sound := by
  apply screenedVisit_sound
  intro d n h
  obtain ⟨a, -, hdn⟩ := Option.map_eq_some_iff.mp h
  have hf := a.outcome_fits s.matching p.rules
  rwa [hdn] at hf

end Policy

/-- What is known of the nodes that references lead to: nothing if no reference may be opened, and
else that they come to their visits where one reference fewer may be. -/
def Informed (childOf : Node → Child) (room : Nat) : Option (Node → Visit) → Prop
  | none => room = 0
  | some f => ∃ k, room = k + 1 ∧ ∀ n, (childOf n).ComesTo k (f n) ∧ (f n).Sound

namespace PolicySetHeader

theorem run_eq (s : Scene) (h : PolicySetHeader) {children : Option (List (Option Node))} {room : Nat}
    {child : Node → Child} {f : Node → Visit}
    (hc : ∀ n ∈ presentIn children, (child n).ComesTo room (f n) ∧ (f n).Sound) (carries : Bool)
    (ctx : Context) (hr : Scene.room ctx = room) :
    h.run s (children.map (·.map (·.map child))) (ctx.after {}) =
      (screenedVisit s.matching h.target
        (h.algorithm.map fun a => a.outcome f s.respectAbandoned children)
        h.obligations carries).result ctx := by
  refine screened_eq s.matching h.target ?_ ?_ h.obligations carries ctx hr
  · intro hn ctx
    rw [Option.map_eq_none_iff.mp hn]
    rfl
  · intro d n ha ctx hr ho
    obtain ⟨a, ha, hdn⟩ := Option.map_eq_some_iff.mp ha
    have hx (xs : List Node) (h : allPresent? children = some xs) : Faithful room child f xs :=
      fun n hn => hc n (mem_presentIn h hn)
    obtain ⟨b, hb⟩ := a.combine_eq s.respectAbandoned children ctx hx hr ho
    refine ⟨b, ?_⟩
    simp only [decideBy, ha, hb, hdn]

end PolicySetHeader

namespace Scene

theorem referenceFault_after (ctx : Context) :
    (ctx.after {}).referenceFault = lostVisit.result ctx := by
  have h := (ctx.setTargetMatched false).report_after {} (by simp)
    (show StatusCode.processingError ≠ .ok by decide)
  simp only [Context.referenceFault, Context.setTargetMatched_after, Context.clearObligations_after, h]
  rfl

theorem lostVisit_sound : lostVisit.Sound := by
  refine ⟨?_, ?_, fun h => by simp [lostVisit] at h⟩
  · intro d hd
    obtain rfl : .indeterminate = d := Option.some.inj hd
    exact fault_fits (by decide) []
  · intro e he
    cases e <;> simp [lostVisit, Effect.decision] at he

theorem follow_found (s : Scene) {childOf : Node → Child} {room : Nat} {id : String} {node : Node}
    {v : Visit} (hn : s.resolve id = some node) (hv : (childOf node).ComesTo room v) (ctx : Context)
    (hr : Scene.room ctx = room + 1) :
    s.follow childOf id (ctx.after {}) = (foundVisit node v).result ctx := by
  have hd : ctx.maxReferenceDepth - ctx.referenceDepth = room + 1 := hr
  let inner : Context := { ctx with referenceDepth := ctx.referenceDepth + 1 }
  have he : (ctx.after {}).enterReference? = some (inner.after {}) :=
    if_pos (show ctx.referenceDepth < ctx.maxReferenceDepth by omega)
  have hin : Scene.room inner = room := by
    show ctx.maxReferenceDepth - (ctx.referenceDepth + 1) = room
    omega
  have hl (b : Bool) (n : Notes) : ((inner.setTargetMatched b).after n).leaveReference =
      (ctx.setTargetMatched b).after n := rfl
  simp only [follow, hn, he, hv.run inner hin, foundVisit, Visit.result]
  cases hd : v.decision with
  | none => simp [hl, Visit.flag, hd, inner]
  | some d =>
    cases hde : d.effect? with
    | none => simp [hl, hde, Visit.flag, hd]
    | some e => simp [hl, hde, Visit.flag, hd]

theorem follow_eq (s : Scene) {childOf : Node → Child} {room : Nat} {visitOf : Option (Node → Visit)}
    (hi : Informed childOf room visitOf) (id : String) (ctx : Context) (hr : Scene.room ctx = room) :
    s.follow childOf id (ctx.after {}) = (s.followedVisit visitOf id).result ctx := by
  unfold followedVisit
  cases hn : s.resolve id with
  | none =>
    simp only [follow, hn]
    exact referenceFault_after ctx
  | some node =>
    cases visitOf with
    | none =>
      have hd : ctx.maxReferenceDepth - ctx.referenceDepth = 0 := hr.trans hi
      have he : (ctx.after {}).enterReference? = none :=
        if_neg (show ¬ ctx.referenceDepth < ctx.maxReferenceDepth by omega)
      simp only [follow, hn, he]
      exact referenceFault_after ctx
    | some f =>
      obtain ⟨k, rfl, hf⟩ := hi
      exact s.follow_found hn (hf node).1 ctx hr

theorem foundVisit_sound (node : Node) {v : Visit} (hv : v.Sound) : (foundVisit node v).Sound := by
  refine ⟨?_, hv.applicable, ?_⟩
  · intro d hd
    have hvd : v.decision = some d := hd
    have hfit := hv.fits d hvd
    refine ⟨?_, hfit.codes_ne_ok⟩
    intro o ho
    rcases List.mem_append.mp ho with h | h
    · exact hfit.bound o h
    · cases he : d.effect? with
      | none => simp [hvd, he] at h
      | some e =>
        simp only [hvd, Option.bind_some, he] at h
        rw [(mem_obligationsFor.mp h).2]
        exact Decision.decision_of_effect? he
  · intro h
    have hvd : v.decision = none := h
    obtain ⟨ha, ho⟩ := hv.cut hvd
    exact ⟨ha, by simp [foundVisit, hvd, ho]⟩

theorem followedVisit_sound (s : Scene) {visitOf : Option (Node → Visit)}
    (hf : ∀ f ∈ visitOf, ∀ n, (f n).Sound) (id : String) : (s.followedVisit visitOf id).Sound := by
  unfold followedVisit
  split
  · rename_i node f _
    exact foundVisit_sound node (hf f rfl node)
  · exact lostVisit_sound

end Scene

namespace Node

theorem screenedVisit_given (m : Matching) (target : Option Condition)
    (out : Option (Decision × Notes)) (declared : List Obligation) (carries : Bool) :
    (screenedVisit m target out declared carries).declared = declared ∧
      (screenedVisit m target out declared carries).carries = carries := by
  unfold screenedVisit
  split
  · exact ⟨rfl, rfl⟩
  · exact ⟨rfl, rfl⟩
  · split <;> exact ⟨rfl, rfl⟩

theorem followedVisit_given (s : Scene) (visitOf : Option (Node → Visit)) (id : String) :
    (s.followedVisit visitOf id).declared = [] ∧ (s.followedVisit visitOf id).carries = true := by
  unfold Scene.followedVisit
  split <;> exact ⟨rfl, rfl⟩

/-- One level of references: if the nodes they lead to come to their visits, so does every tree. -/
theorem child_comesTo (s : Scene) {childOf : Node → Child} {room : Nat}
    {visitOf : Option (Node → Visit)} (hi : Informed childOf room visitOf) (n : Node) :
    (n.child s childOf).ComesTo room (n.visit s visitOf) ∧ (n.visit s visitOf).Sound := by
  induction n using Node.induct with
  | hp p =>
    obtain ⟨hd, hc⟩ := screenedVisit_given s.matching p.target
      (p.algorithm.map fun a => a.outcome s.matching p.rules) p.obligations p.carriesObligations
    exact ⟨⟨hd.symm, hc.symm, fun ctx _ => p.run_eq s ctx⟩, p.visit_sound s⟩
  | hs h children ih =>
    rw [visit_policySet, child, childrenOf_eq_map]
    obtain ⟨hd, hc⟩ := screenedVisit_given s.matching h.target
      (h.algorithm.map fun a => a.outcome (·.visit s visitOf) s.respectAbandoned children)
      h.obligations (policySet h children).carriesObligations
    refine ⟨⟨hd.symm, hc.symm, fun ctx hr => h.run_eq s ih _ ctx hr⟩, ?_⟩
    apply screenedVisit_sound
    intro d n ha
    obtain ⟨a, -, hdn⟩ := Option.map_eq_some_iff.mp ha
    have hf := a.outcome_fits s.respectAbandoned children fun xs hxs n hn =>
      (ih n (mem_presentIn hxs hn)).2
    rwa [hdn] at hf
  | hr id =>
    obtain ⟨hd, hc⟩ := followedVisit_given s visitOf id
    refine ⟨⟨hd.symm, hc.symm, fun ctx hr => s.follow_eq hi id ctx hr⟩, ?_⟩
    apply s.followedVisit_sound
    rintro f rfl n
    obtain ⟨k, -, hf⟩ := hi
    exact (hf n).2

end Node

namespace Scene

/-- Every node comes to its visit, on every context that leaves so much room for references. -/
theorem childWithin_comesTo (s : Scene) (k : Nat) (n : Node) :
    (s.childWithin k n).ComesTo k (s.visitWithin k n) ∧ (s.visitWithin k n).Sound := by
  induction k generalizing n with
  | zero =>
    have hi : Informed (fun _ => ⟨[], true, Context.referenceFault⟩) 0 none := rfl
    exact n.child_comesTo s hi
  | succ k ih =>
    have hi : Informed (s.childWithin k) (k + 1) (some (s.visitWithin k)) := ⟨k, rfl, ih⟩
    exact n.child_comesTo s hi

/-- What a node comes to alone, read off its evaluation on a fresh context of the same depth. -/
def alone (s : Scene) (ctx : Context) (n : Node) : Visit where
  codes := (s.evaluateNode n ctx.fresh).2.statusCodes
  missing := (s.evaluateNode n ctx.fresh).2.missing
  obligations := (s.evaluateNode n ctx.fresh).2.obligations
  lookups := (s.evaluateNode n ctx.fresh).2.lookups
  decision := (s.evaluateNode n ctx.fresh).1
  declared := n.obligations
  carries := n.carriesObligations
  applicable := (s.evaluateNode n ctx.fresh).2.targetMatched

/-- What a node comes to alone is its visit, for all that this takes of the context is its room. -/
theorem alone_eq_visitWithin (s : Scene) (ctx : Context) : s.alone ctx = s.visitWithin (room ctx) := by
  funext n
  obtain ⟨hc, hs⟩ := s.childWithin_comesTo (room ctx) n
  have hrun : s.evaluateNode n ctx.fresh = (s.visitWithin (room ctx) n).result ctx.fresh :=
    hc.run ctx.fresh rfl
  have hf : (s.visitWithin (room ctx) n).flag ctx.fresh.targetMatched =
      (s.visitWithin (room ctx) n).applicable := by
    cases hd : (s.visitWithin (room ctx) n).decision with
    | none => simp [Visit.flag, hd, (hs.cut hd).1, Context.fresh]
    | some d => simp [Visit.flag, hd]
  have hd : n.obligations = (s.visitWithin (room ctx) n).declared := by
    rw [← hc.declared]
    cases room ctx <;> cases n <;> rfl
  have hk : n.carriesObligations = (s.visitWithin (room ctx) n).carries := by
    rw [← hc.carries]
    cases room ctx <;> cases n <;> rfl
  simp only [alone, hrun, Visit.result, hf, hd, hk]
  rfl

theorem alone_sound (s : Scene) (ctx : Context) (n : Node) : (s.alone ctx n).Sound := by
  rw [alone_eq_visitWithin]
  exact (s.childWithin_comesTo (room ctx) n).2

theorem alone_policySet (s : Scene) (ctx : Context) (h : PolicySetHeader)
    (children : Option (List (Option Node))) :
    s.alone ctx (.policySet h children) =
      screenedVisit s.matching h.target
        (h.algorithm.map fun a => a.outcome (s.alone ctx) s.respectAbandoned children)
        h.obligations (Node.policySet h children).carriesObligations := by
  rw [alone_eq_visitWithin]
  cases room ctx with
  | zero => exact Node.visit_policySet s none h children
  | succ k => exact Node.visit_policySet s (some (s.visitWithin k)) h children

theorem alone_policy (s : Scene) (ctx : Context) (p : Policy) : s.alone ctx (.policy p) = p.visit s := by
  rw [alone_eq_visitWithin]
  cases room ctx <;> rfl

theorem room_of_enterReference? {ctx inner : Context} (h : ctx.enterReference? = some inner) :
    room inner + 1 = room ctx := by
  obtain ⟨hlt, rfl⟩ := Context.enterReference?_eq_some h
  show ctx.maxReferenceDepth - (ctx.referenceDepth + 1) + 1 = ctx.maxReferenceDepth - ctx.referenceDepth
  omega

theorem exists_enterReference? {ctx : Context} (h : 0 < room ctx) :
    ∃ inner, ctx.enterReference? = some inner := by
  refine ⟨{ ctx with referenceDepth := ctx.referenceDepth + 1 }, if_pos ?_⟩
  unfold room at h
  omega

theorem alone_reference (s : Scene) (ctx : Context) (id : String) :
    s.alone ctx (.reference id) =
      match s.resolve id, ctx.fresh.enterReference? with
      | some n, some inner => foundVisit n (s.alone inner n)
      | _, _ => lostVisit := by
  have hroom : room ctx = ctx.maxReferenceDepth - ctx.referenceDepth := rfl
  rw [alone_eq_visitWithin]
  cases hk : room ctx with
  | zero =>
    have he : ctx.fresh.enterReference? = none :=
      if_neg (show ¬ ctx.referenceDepth < ctx.maxReferenceDepth by omega)
    rw [he]
    show s.followedVisit none id = _
    unfold followedVisit
    cases s.resolve id <;> rfl
  | succ k =>
    let inner : Context := { ctx.fresh with referenceDepth := ctx.referenceDepth + 1 }
    have he : ctx.fresh.enterReference? = some inner :=
      if_pos (show ctx.referenceDepth < ctx.maxReferenceDepth by omega)
    have hin : room inner = k := by
      show ctx.maxReferenceDepth - (ctx.referenceDepth + 1) = k
      omega
    rw [he]
    show s.followedVisit (some (s.visitWithin k)) id = _
    unfold followedVisit
    cases s.resolve id with
    | none => rfl
    | some n =>
      simp only
      rw [alone_eq_visitWithin, hin]

theorem alone_found (s : Scene) {ctx inner : Context} {id : String} {n : Node}
    (hn : s.resolve id = some n) (he : ctx.fresh.enterReference? = some inner) :
    s.alone ctx (.reference id) = foundVisit n (s.alone inner n) := by
  rw [alone_reference, hn, he]

/-- Induction along an evaluation: beneath a policy set the tree is smaller, and behind a reference one
fewer may be opened. -/
theorem induct (s : Scene) {P : Context → Node → Prop} (policy : ∀ ctx p, P ctx (.policy p))
    (policySet : ∀ ctx h children, (∀ n ∈ presentIn children, P ctx n) →
      P ctx (.policySet h children))
    (reference : ∀ ctx id,
      (∀ n inner, s.resolve id = some n → ctx.fresh.enterReference? = some inner → P inner n) →
        P ctx (.reference id)) (ctx : Context) (n : Node) : P ctx n := by
  induction hk : room ctx using Nat.strongRecOn generalizing ctx n with
  | ind k behind =>
    induction n using Node.induct with
    | hp p => exact policy ctx p
    | hs h children ih => exact policySet ctx h children ih
    | hr id =>
      apply reference ctx id
      intro n inner hn he
      have hroom := room_of_enterReference? he
      have hfresh : room ctx.fresh = room ctx := rfl
      exact behind (room inner) (by omega) inner n rfl

/-- A fold over nodes on any context without obligations comes to what they come to alone. -/
theorem combineNodes_eq (s : Scene) (a : PolicyAlgorithm) (ra : Bool)
    (slots : Option (List (Option Node))) (ctx : Context) (ho : ctx.obligations = []) :
    ∃ b, a.combine ra (slots.map (·.map (·.map (s.childWithin (room ctx))))) ctx =
      ((a.outcome (s.alone ctx) ra slots).1,
        (ctx.setTargetMatched b).after (a.outcome (s.alone ctx) ra slots).2) := by
  rw [alone_eq_visitWithin]
  exact a.combine_eq ra slots ctx (fun _ _ n _ => s.childWithin_comesTo (room ctx) n) rfl ho

/-- A fold over rules likewise, and it does not touch the target flag. -/
theorem combineRules_eq (s : Scene) (a : RuleAlgorithm) (slots : Option (List (Option Rule)))
    {ctx : Context} (ho : ctx.obligations = []) :
    s.combineRules a slots ctx =
      ((a.outcome s.matching slots).1, ctx.after (a.outcome s.matching slots).2) :=
  a.combine_eq s.matching slots ctx ho

end Scene

/-- A policy that always decides alike, and brings obligations of these ids. -/
def Policy.always (id : String) (e : Effect) (os : List String) : Policy :=
  { Policy.ofAlgorithm id .firstApplicable with obligations := os.map fun o => ⟨o, e, []⟩ }.addRule
    { id := "rule", effect := e }

/-- An empty request, where every reference leads to the one node. -/
def Scene.leadingTo (n : Node) : Scene where
  matching := ⟨⟨{}, none⟩, .byValue, .byValue⟩
  resolve _ := some n

end Arbiter
