import Arbiter.Proofs.Status

/-! The one applicable child.

Where just one child may apply, the targets alone tell which child decides: none if that of some child
cannot be evaluated or more than one match. What the applicable child comes to is taken over as it is. -/

namespace Arbiter

/-- The decision where just one child may apply, from how the targets turn out and what the children
decide. -/
def soleDecision (screen : α → MatchResult) (decisionOf : α → Decision) (xs : List α) : Decision :=
  if ∃ x ∈ xs, screen x = .indeterminate then .indeterminate
  else
    match xs.filter fun x => screen x = .matched with
    | [] => .notApplicable
    | [x] => decisionOf x
    | _ => .indeterminate

theorem soleDecision_of_fault {screen : α → MatchResult} (decisionOf : α → Decision) {xs : List α}
    (h : ∃ x ∈ xs, screen x = .indeterminate) : soleDecision screen decisionOf xs = .indeterminate :=
  if_pos h

/-- Nothing hangs on the order: of two lists with one applicable child each it is the same one. -/
theorem soleDecision_perm (screen : α → MatchResult) (decisionOf : α → Decision) {xs ys : List α}
    (h : xs.Perm ys) : soleDecision screen decisionOf xs = soleDecision screen decisionOf ys := by
  have hfault : (∃ x ∈ xs, screen x = .indeterminate) ↔ ∃ y ∈ ys, screen y = .indeterminate := by
    simp only [h.mem_iff]
  have happly := h.filter fun x => decide (screen x = .matched)
  simp only [soleDecision, hfault]
  generalize xs.filter (fun x => decide (screen x = .matched)) = vs at happly
  generalize ys.filter (fun y => decide (screen y = .matched)) = ws at happly
  match vs, ws, happly with
  | [], ws, hp => rw [List.nil_perm.mp hp]
  | [v], ws, hp => rw [List.singleton_perm.mp hp]
  | v :: v' :: vs, [], hp => simp at hp
  | v :: v' :: vs, [w], hp => simp at hp
  | v :: v' :: vs, w :: w' :: ws, _ => rfl

namespace Visit

/-- A child whose target cannot be evaluated is Indeterminate. -/
theorem Sound.indeterminate_of_screen {v : Visit} (hv : v.Sound) (h : v.screen = .indeterminate) :
    v.decision = some .indeterminate := by
  unfold screen at h
  cases hd : v.decision with
  | none => simp [hd] at h
  | some d =>
    have ha : v.applicable = false := by
      cases ha : v.applicable <;> simp_all
    cases d with
    | permit => simpa [ha] using hv.applicable .permit hd
    | deny => simpa [ha] using hv.applicable .deny hd
    | notApplicable => simp [hd, ha, decides] at h
    | indeterminate => rfl

/-- A child that decided and whose target matched has applied. -/
theorem applicable_of_screen {v : Visit} (hd : v.decision ≠ none) (h : v.screen = .matched) : v.applicable := by
  unfold screen at h
  split at h
  · simp_all
  · split at h <;> cases h

end Visit

/-- A lone child is taken for what it comes to, be that a decision, a fault or nothing that applies. -/
theorem rankedOutcome_own {v : Visit} {d : Decision} (hd : v.decision = some d) :
    rankedOutcome firstApplying [v] = (d, closing d [v]) := by
  by_cases hn : d = .notApplicable
  · subst hn
    simp [rankedOutcome, firstApplying, decisionsOf, hd]
  · exact PolicyAlgorithm.rankedOutcome_lone hd hn

namespace PolicyAlgorithm

variable (f : α → Visit)

/-- One child of which nobody can tell is enough, wherever it stands. -/
theorem soleOutcome_fault (sole : Option Visit) {xs : List α} (hv : ∀ x ∈ xs, (f x).decision ≠ none)
    (hs : ∀ x ∈ xs, (f x).Sound) (h : ∃ x ∈ xs, (f x).screen = .indeterminate) :
    (soleOutcome sole (xs.map f)).1 = .indeterminate := by
  induction xs generalizing sole with
  | nil => simp at h
  | cons x xs ih =>
    have hvs : ∀ y ∈ xs, (f y).decision ≠ none := fun y hy => hv y (List.mem_cons_of_mem x hy)
    have hss : ∀ y ∈ xs, (f y).Sound := fun y hy => hs y (List.mem_cons_of_mem x hy)
    rw [List.map_cons, soleOutcome_cons sole (hv x List.mem_cons_self)]
    cases hscreen : (f x).screen with
    | matched =>
      cases sole with
      | some v => rfl
      | none => exact ih _ hvs hss (by simpa [hscreen] using h)
    | unmatched => exact ih sole hvs hss (by simpa [hscreen] using h)
    | indeterminate =>
      have hd := (hs x List.mem_cons_self).indeterminate_of_screen hscreen
      exact congrArg (·.1) (rankedOutcome_own hd)

/-- If all targets can be evaluated, the number of applicable children settles the search. -/
theorem soleOutcome_clear (sole : Option α) {xs : List α} (hv : ∀ x ∈ xs, (f x).decision ≠ none)
    (h : ∀ x ∈ xs, (f x).screen ≠ .indeterminate) :
    soleOutcome (sole.map f) (xs.map f) =
      match sole.toList ++ xs.filter fun x => (f x).screen = .matched with
      | [] => (.notApplicable, {})
      | [x] => rankedOutcome firstApplying [f x]
      | _ => (.indeterminate, { codes := [.processingError] }) := by
  induction xs generalizing sole with
  | nil => cases sole <;> rfl
  | cons x xs ih =>
    have hvs : ∀ y ∈ xs, (f y).decision ≠ none := fun y hy => hv y (List.mem_cons_of_mem x hy)
    have hxs : ∀ y ∈ xs, (f y).screen ≠ .indeterminate := fun y hy => h y (List.mem_cons_of_mem x hy)
    rw [List.map_cons, soleOutcome_cons _ (hv x List.mem_cons_self)]
    cases hscreen : (f x).screen with
    | matched =>
      cases sole with
      | some y => simp [hscreen]
      | none => simpa [hscreen] using ih (some x) hvs hxs
    | unmatched => simpa [hscreen] using ih sole hvs hxs
    | indeterminate => exact absurd hscreen (h x List.mem_cons_self)

theorem soleOutcome_decision {decisionOf : α → Decision} {xs : List α}
    (hd : ∀ x ∈ xs, (f x).decision = some (decisionOf x)) (hs : ∀ x ∈ xs, (f x).Sound) :
    (soleOutcome none (xs.map f)).1 = soleDecision (fun x => (f x).screen) decisionOf xs := by
  have hv : ∀ x ∈ xs, (f x).decision ≠ none := fun x hx => by simp [hd x hx]
  by_cases hfault : ∃ x ∈ xs, (f x).screen = .indeterminate
  · rw [soleOutcome_fault f none hv hs hfault, soleDecision_of_fault decisionOf hfault]
  · have hclear := soleOutcome_clear f none hv (by simpa using hfault)
    simp only [Option.map_none, Option.toList_none, List.nil_append] at hclear
    rw [hclear, soleDecision, if_neg hfault]
    have hmem : ∀ x ∈ xs.filter (fun x => (f x).screen = .matched), x ∈ xs :=
      fun x hx => (List.mem_filter.mp hx).1
    generalize xs.filter (fun x => decide ((f x).screen = .matched)) = vs at hmem
    match vs, hmem with
    | [], _ => rfl
    | [x], hmem => exact congrArg (·.1) (rankedOutcome_own (hd x (hmem x List.mem_cons_self)))
    | _ :: _ :: _, _ => rfl

end PolicyAlgorithm

namespace Scene

/-- An Indeterminate node whose target matched has left a code, and tells what it missed once. -/
theorem alone_tells (s : Scene) (ctx : Context) (n : Node) (ha : (s.alone ctx n).applicable)
    (hi : (s.alone ctx n).decision = some .indeterminate) :
    (s.alone ctx n).codes ≠ [] ∧ (s.alone ctx n).missing.Nodup := by
  have hrest {target : Option Condition} {out : Option (Decision × Notes)} {os : List Obligation}
      {carries : Bool} (ho : ∀ k, out = some (.indeterminate, k) → k.codes ≠ [] ∧ k.missing.Nodup)
      (ha : (screenedVisit s.matching target out os carries).applicable)
      (hi : (screenedVisit s.matching target out os carries).decision = some .indeterminate) :
      (screenedVisit s.matching target out os carries).codes ≠ [] ∧
        (screenedVisit s.matching target out os carries).missing.Nodup := by
    rcases screenedVisit_indeterminate hi with ⟨ht, -⟩ | ⟨k, ds, hout, hv⟩
    · unfold screenedVisit at ha
      split at ha <;> simp_all
    · rw [hv]
      exact ho k hout
  have hagrees {d : Decision} {k : Notes} (h : (Context.after {} k).Agrees d) (hd : d = .indeterminate) :
      k.codes ≠ [] ∧ k.missing.Nodup := by
    refine ⟨fun hc => ?_, h.distinct⟩
    have hprimary : k.codes.head? = _ := h.primary hd
    simp [hc] at hprimary
  induction ctx, n using s.induct with
  | policy ctx p =>
    rw [alone_policy] at ha hi ⊢
    refine hrest (fun k hout => ?_) ha hi
    obtain ⟨a, -, hdn⟩ := Option.map_eq_some_iff.mp hout
    have h := a.outcome_agrees s.matching p.rules {}
    rw [hdn] at h
    exact hagrees h rfl
  | policySet ctx h children ih =>
    rw [alone_policySet] at ha hi ⊢
    refine hrest (fun k hout => ?_) ha hi
    obtain ⟨a, -, hdn⟩ := Option.map_eq_some_iff.mp hout
    have h := a.outcome_agrees s.respectAbandoned children
      (fun n _ => s.alone_linked ctx n) (fun n _ => s.alone_sound ctx n) {}
    rw [hdn] at h
    exact hagrees h rfl
  | reference ctx id ih =>
    rw [alone_reference] at ha hi ⊢
    cases hid : s.resolve id with
    | none => simp [hid, lostVisit] at ha
    | some m =>
      cases he : ctx.fresh.enterReference? with
      | none => simp [hid, he, lostVisit] at ha
      | some inner =>
        rw [hid, he] at ha hi
        exact ih m inner hid he ha hi

/-- What a search for the one applicable child comes to, on a context that earlier evaluations may have
used. The children are told by how their targets turn out, and the one that applies by what it comes to
alone, on a fresh context of the same depth. -/
structure DecidesByTarget (s : Scene) (ctx : Context) (ra : Bool) (ns : List Node)
    (out : Decision × Context) : Prop where
  unclear : (∃ n ∈ ns, s.screening ctx n = .indeterminate) → out.1 = .indeterminate
  contested : 1 < (ns.filter fun n => s.screening ctx n = .matched).length → out.1 = .indeterminate
  idle : (∀ n ∈ ns, s.screening ctx n = .unmatched) → out.1 = .notApplicable
  lone : (∀ n ∈ ns, s.screening ctx n ≠ .indeterminate) →
    ∀ n, (ns.filter fun n => s.screening ctx n = .matched) = [n] →
      let own := s.evaluateNode n ctx.fresh
      own.1 = some out.1 ∧
        (out.1 = .indeterminate → out.2.statusCode = own.2.statusCode ∧
          out.2.statusCodes = own.2.statusCodes ∧ out.2.missing = own.2.missing) ∧
        ∀ e : Effect, out.1 = e.decision →
          out.2.obligations = obligationsFor e n.obligations ++ own.2.obligations
  reordered : ∀ ns', ns.Perm ns' →
    (PolicyAlgorithm.onlyOneApplicable.combine ra
      (some (ns'.map fun n => some (s.childWithin (room ctx) n))) ctx).1 = out.1
  /-- More than one child applied before one of which nobody can tell. -/
  ambiguous : 1 < (PolicyAlgorithm.contenders (s.screening ctx) ns).length →
    out.2.statusCode = .processingError ∧ out.2.statusCodes = [.processingError] ∧ out.2.missing = []

theorem evaluateNode_fresh (s : Scene) (n : Node) (ctx : Context) :
    s.evaluateNode n ctx.fresh = (s.alone ctx n).result ctx.fresh := by
  rw [alone_eq_visitWithin]
  exact (s.childWithin_comesTo (room ctx) n).1.run ctx.fresh rfl

/-- The search over nodes comes to what the search over what they come to alone does. -/
theorem combineSole_eq (s : Scene) (ra : Bool) (ns : List Node) {ctx : Context}
    (ho : ctx.obligations = []) :
    ∃ b ds, PolicyAlgorithm.onlyOneApplicable.combine ra
        (some (ns.map fun n => some (s.childWithin (room ctx) n))) ctx =
      ((soleOutcome none (ns.map (s.alone ctx))).1,
        (ctx.setTargetMatched b).after
          { (soleOutcome none (ns.map (s.alone ctx))).2 with lookups := ds }) := by
  obtain ⟨b, hb⟩ := s.combineNodes_eq .onlyOneApplicable ra (some (ns.map some)) ctx ho
  simp only [PolicyAlgorithm.outcome, allPresent?_map_some, Option.map_some, List.map_map,
    Function.comp_def] at hb
  exact ⟨b, _, hb⟩

theorem combineSole_decision (s : Scene) (ra : Bool) {ns : List Node} {ctx : Context}
    (ho : ctx.obligations = []) {decisionOf : Node → Decision}
    (hd : ∀ n ∈ ns, (s.evaluateNode n ctx.fresh).1 = some (decisionOf n)) :
    (PolicyAlgorithm.onlyOneApplicable.combine ra
      (some (ns.map fun n => some (s.childWithin (room ctx) n))) ctx).1 =
        soleDecision (s.screening ctx) decisionOf ns := by
  obtain ⟨b, ds, hb⟩ := s.combineSole_eq ra ns ho
  rw [hb, ← funext (s.alone_screen ctx)]
  exact PolicyAlgorithm.soleOutcome_decision (s.alone ctx) hd fun n _ => s.alone_sound ctx n

/-- The search comes to what the lone applicable node decides, and to what closes a fold over that node. -/
theorem combineSole_lone (s : Scene) (ra : Bool) {ns : List Node} {ctx : Context}
    (ho : ctx.obligations = []) (hn : ∀ n ∈ ns, (s.alone ctx n).decision ≠ none)
    (hclear : ∀ n ∈ ns, s.screening ctx n ≠ .indeterminate) {n : Node} {d : Decision}
    (hlone : (ns.filter fun n => s.screening ctx n = .matched) = [n])
    (hd : (s.alone ctx n).decision = some d) :
    ∃ b ds, PolicyAlgorithm.onlyOneApplicable.combine ra
        (some (ns.map fun n => some (s.childWithin (room ctx) n))) ctx =
      (d, (ctx.setTargetMatched b).after { closing d [s.alone ctx n] with lookups := ds }) := by
  have hsole := PolicyAlgorithm.soleOutcome_clear (s.alone ctx) none hn
    (by simpa only [alone_screen] using hclear)
  simp only [Option.map_none, Option.toList_none, List.nil_append, alone_screen, hlone] at hsole
  rw [rankedOutcome_own hd] at hsole
  obtain ⟨b, ds, hb⟩ := s.combineSole_eq ra ns ho
  rw [hsole] at hb
  exact ⟨b, ds, hb⟩

/-- What a lone node comes to is what the fold comes to that takes it over. -/
theorem lone_taken_over (s : Scene) (ctx : Context) {n : Node} {d : Decision}
    (ha : (s.alone ctx n).applicable) (hd : (s.alone ctx n).decision = some d) :
    (d = .indeterminate → (closing d [s.alone ctx n]).codes = (s.alone ctx n).codes ∧
        (closing d [s.alone ctx n]).missing = (s.alone ctx n).missing) ∧
      ∀ e : Effect, d = e.decision → (closing d [s.alone ctx n]).obligations =
        obligationsFor e n.obligations ++ (s.alone ctx n).obligations := by
  constructor
  · rintro rfl
    obtain ⟨hcodes, hmissing⟩ := s.alone_tells ctx n ha hd
    have hdecides : (s.alone ctx n).decides .indeterminate := by simp [Visit.decides, hd]
    constructor
    · simp [closing, faultsOf, hdecides, Visit.faultCodes, hcodes]
    · have hunion : (faultsOf [s.alone ctx n]).missing = (s.alone ctx n).missing.eraseDups := by
        rw [faultsOf_missing]
        simp [hdecides]
      exact hunion.trans (eraseDups_of_nodup hmissing)
  · rintro e rfl
    have hdecides : (s.alone ctx n).decides e.decision := by simp [Visit.decides, hd]
    have hdeclared : (s.alone ctx n).declared = n.obligations := rfl
    simp [closing, broughtBy, hdecides, Visit.brings, hdeclared]

/-- The targets alone tell which child decides, if no child reaches a node without an algorithm. -/
theorem decides_by_target (s : Scene) (ra : Bool) (ns : List Node) (ctx : Context)
    (ho : ctx.obligations = []) (hn : ∀ n ∈ ns, (s.evaluateNode n ctx.fresh).1 ≠ none) :
    s.DecidesByTarget ctx ra ns (PolicyAlgorithm.onlyOneApplicable.combine ra
      (some (ns.map fun n => some (s.childWithin (room ctx) n))) ctx) := by
  let decisionOf (n : Node) : Decision := (s.evaluateNode n ctx.fresh).1.getD .indeterminate
  have hd : ∀ n ∈ ns, (s.evaluateNode n ctx.fresh).1 = some (decisionOf n) := by
    intro n hm
    obtain ⟨d, hd⟩ := Option.ne_none_iff_exists'.mp (hn n hm)
    simp [decisionOf, hd]
  have hdecision := s.combineSole_decision ra ho hd
  constructor
  case unclear =>
    intro hfault
    rw [hdecision, soleDecision_of_fault decisionOf hfault]
  case contested =>
    intro hmany
    rw [hdecision, soleDecision]
    split
    · rfl
    · split <;> simp_all
  case idle =>
    intro hidle
    have hnone : (ns.filter fun n => s.screening ctx n = .matched) = [] := by
      simpa using fun n hm => by simp [hidle n hm]
    have hclear : ¬∃ n ∈ ns, s.screening ctx n = .indeterminate := by
      rintro ⟨n, hm, hi⟩
      simp [hidle n hm] at hi
    rw [hdecision, soleDecision, if_neg hclear, hnone]
  case lone =>
    intro hclear n hlone own
    have hmem : n ∈ ns ∧ s.screening ctx n = .matched := by
      have hn : n ∈ ns.filter fun n => s.screening ctx n = .matched := by simp [hlone]
      simpa using hn
    have happlies : (s.alone ctx n).applicable :=
      Visit.applicable_of_screen (hn n hmem.1) ((s.alone_screen ctx n).trans hmem.2)
    obtain ⟨b, ds, hb⟩ := s.combineSole_lone ra ho hn hclear hlone (hd n hmem.1)
    rw [hb]
    obtain ⟨hfaults, hobligations⟩ := s.lone_taken_over ctx happlies (hd n hmem.1)
    refine ⟨hd n hmem.1, ?_, hobligations⟩
    intro hi
    obtain ⟨hcodes, hmissing⟩ := hfaults hi
    have hown : own.2.statusCode = (s.alone ctx n).codes.headD .ok :=
      congrArg (·.2.statusCode) (s.evaluateNode_fresh n ctx)
    exact ⟨(congrArg (·.headD .ok) hcodes).trans hown.symm, hcodes, hmissing⟩
  case reordered =>
    intro ns' hp
    have hd' : ∀ n ∈ ns', (s.evaluateNode n ctx.fresh).1 = some (decisionOf n) :=
      fun n hm => hd n (hp.mem_iff.mpr hm)
    rw [hdecision, s.combineSole_decision ra ho hd']
    exact (soleDecision_perm (s.screening ctx) decisionOf hp).symm
  case ambiguous =>
    intro hmany
    obtain ⟨b, ds, hb⟩ := s.combineSole_eq ra ns ho
    have hvisited : ∀ n ∈ PolicyAlgorithm.searched (s.alone ctx) false ns,
        (s.alone ctx n).decision ≠ none :=
      fun n hm => hn n ((PolicyAlgorithm.searched_sublist false ns).subset hm)
    rw [← funext (s.alone_screen ctx)] at hmany
    have hsole := PolicyAlgorithm.soleOutcome_contested (s.alone ctx) none hvisited
      (show 1 < 0 + _ by omega)
    rw [hb, show soleOutcome none (ns.map (s.alone ctx)) = _ from hsole]
    exact ⟨rfl, rfl, rfl⟩

/-- A reference is the one that applies, beside a policy that does not, in either order. With a second
reference the search is given up before it comes to a policy of which nobody can tell. -/
theorem decides_by_target_reference :
    let p := { Policy.always "p" .deny ["audit"] with target := some { operator := .or } }
    let q := { Policy.always "q" .deny [] with target := some { operator := .not } }
    let s := leadingTo (.policy (.always "r" .permit ["log"]))
    let ctx : Context := { statusCode := .syntaxError, targetMatched := true }
    let out := s.combineNodes .onlyOneApplicable (some [some (.policy p), some (.reference "r")]) ctx
    let swapped := s.combineNodes .onlyOneApplicable (some [some (.reference "r"), some (.policy p)]) ctx
    let twice := s.combineNodes .onlyOneApplicable
      (some [some (.reference "r"), some (.reference "r"), some (.policy q)]) ctx
    out.1 = .permit ∧ out.2.obligations = [⟨"log", .permit, []⟩] ∧ swapped.1 = .permit ∧
      twice.1 = .indeterminate ∧ twice.2.statusCodes = [.processingError] := by
  intro p q s ctx out swapped twice
  have h := s.decides_by_target false [.policy p, .reference "r"] ctx rfl (by decide)
  obtain ⟨hown, -, hobligations⟩ := h.lone (by decide) (.reference "r") rfl
  have hpermit : out.1 = .permit := (Option.some.inj hown).symm.trans (by decide)
  have hswapped : swapped.1 = out.1 :=
    h.reordered [.reference "r", .policy p] (List.Perm.swap (Node.reference "r") (Node.policy p) [])
  have htwice := s.decides_by_target false [.reference "r", .reference "r", .policy q] ctx rfl (by decide)
  exact ⟨hpermit, (hobligations .permit hpermit).trans (by decide), hswapped.trans hpermit,
    htwice.contested (by decide), (htwice.ambiguous (by decide)).2.1⟩

end Scene

end Arbiter
