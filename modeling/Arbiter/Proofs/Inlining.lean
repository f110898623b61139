import Arbiter.Proofs.Agreement
import Arbiter.Proofs.Isolation
import Arbiter.Proofs.Provenance
import Arbiter.Proofs.Reach
import Mathlib.Data.List.Forall2

/-! References are transparent: a tree comes to the same with the nodes in the place of the references
that lead to them.

The node that a reference leads to is evaluated one reference deeper, which matters only where no more
may be opened. A reference carries obligations whatever it leads to, so a parent that respects abandoned
children may visit it where it would skip the node; but a node that is skipped brings nothing. -/

namespace Arbiter

/-- Two lists side by side. -/
theorem exists_pairs {P : α → α → Prop} {slots slots' : List (Option α)}
    (h : List.Forall₂ (Option.Rel P) slots slots') :
    ∃ pairs : List (Option (α × α)), slots = pairs.map (·.map (·.1)) ∧
      slots' = pairs.map (·.map (·.2)) ∧ ∀ p ∈ presentIn (some pairs), P p.1 p.2 := by
  induction h with
  | nil => exact ⟨[], rfl, rfl, by simp [presentIn]⟩
  | @cons slot slot' _ _ hslot _ ih =>
    obtain ⟨pairs, rfl, rfl, hp⟩ := ih
    cases hslot with
    | none => exact ⟨none :: pairs, rfl, rfl, hp⟩
    | @some n n' hn =>
      refine ⟨some (n, n') :: pairs, rfl, rfl, ?_⟩
      intro p hm
      rcases List.mem_cons.mp hm with rfl | hm
      · exact hn
      · exact hp p hm

namespace Visit.Agree

variable {v v' v'' : Visit}

theorem symm (h : v.Agree List.Perm v') : v'.Agree List.Perm v where
  codes := h.codes.symm
  missing := h.missing.symm
  decision := h.decision.symm
  applicable := h.applicable.symm
  brings e he := (h.brings e (h.decision.trans he)).symm

theorem trans (h : v.Agree List.Perm v') (h' : v'.Agree List.Perm v'') : v.Agree List.Perm v'' where
  codes := h.codes.trans h'.codes
  missing := h.missing.trans h'.missing
  decision := h.decision.trans h'.decision
  applicable := h.applicable.trans h'.applicable
  brings e he := (h.brings e he).trans (h'.brings e (h.decision.symm.trans he))

end Visit.Agree

namespace PolicyAlgorithm

variable {f g : α → Visit} {R : List Obligation → List Obligation → Prop}

/-- Where fewer children carry obligations fewer are reached, and those that are not would have brought
none. -/
theorem reached_lighter (hR : Additive R) (winner : Effect) {ra won : Bool} (hw : won → ra)
    {xs : List α} (h : ∀ x ∈ reached f winner ra won xs, (f x).Agree R (g x))
    (hd : ∀ x ∈ reached f winner ra won xs, (f x).decision ≠ none)
    (hc : ∀ x ∈ xs, (g x).carries → (f x).carries)
    (hb : ∀ x ∈ xs, (g x).carries = false → broughtBy winner [g x] = []) :
    (reached g winner ra won xs).Sublist (reached f winner ra won xs) ∧
      R (broughtBy winner ((reached f winner ra won xs).map f))
        (broughtBy winner ((reached g winner ra won xs).map g)) := by
  induction xs generalizing won with
  | nil => exact ⟨.slnil, hR.refl []⟩
  | cons x xs ih =>
    have hcx := hc x List.mem_cons_self
    have hbx := hb x List.mem_cons_self
    have hcs : ∀ y ∈ xs, (g y).carries → (f y).carries := fun y hy => hc y (List.mem_cons_of_mem x hy)
    have hbs : ∀ y ∈ xs, (g y).carries = false → broughtBy winner [g y] = [] :=
      fun y hy => hb y (List.mem_cons_of_mem x hy)
    cases hskip : won && !(f x).carries with
    | true =>
      have hskip' : won && !(g x).carries := by
        revert hskip hcx
        cases won <;> cases (f x).carries <;> cases (g x).carries <;> simp
      rw [reached_skipped hskip] at h hd ⊢
      rw [reached_skipped hskip']
      exact ih hw h hd hcs hbs
    | false =>
      have hx := h x (mem_reached hskip xs)
      have hdx := hd x (mem_reached hskip xs)
      have hbrought := hx.broughtBy hR winner
      by_cases hl : (f x).decides winner.decision ∧ ra = false
      · -- The overriding effect ends the fold, so that it was not decided before.
        have hwon : won = false := by
          cases won with
          | false => rfl
          | true => exact absurd (hw rfl) (by simp [hl.2])
        have hskip' : (won && !(g x).carries) = false := by simp [hwon]
        rw [reached_last hskip hl, reached_last hskip' (hx.decides _ ▸ hl)]
        exact ⟨.refl _, hbrought⟩
      · have hw' : (won || (f x).decides winner.decision) → ra := by
          intro h
          cases ra with
          | true => rfl
          | false => simp_all
        rw [reached_further hskip hdx hl] at h hd ⊢
        obtain ⟨hsub, hrest⟩ := ih hw' (fun y hy => h y (List.mem_cons_of_mem x hy))
          (fun y hy => hd y (List.mem_cons_of_mem x hy)) hcs hbs
        rw [List.map_cons, broughtBy_cons]
        cases hskip' : won && !(g x).carries with
        | true =>
          -- Here the lighter fold skips a child, and both are left with the overriding effect decided.
          obtain ⟨hwon, hcg⟩ : won = true ∧ (g x).carries = false := by simpa using hskip'
          rw [reached_skipped hskip']
          rw [hbx hcg] at hbrought
          rw [hwon, Bool.true_or] at hsub hrest ⊢
          exact ⟨hsub.cons x, hR.append hbrought hrest⟩
        | false =>
          rw [reached_further hskip' (hx.decision ▸ hdx) (hx.decides _ ▸ hl), ← hx.decides,
            List.map_cons, broughtBy_cons _ (g x)]
          exact ⟨hsub.cons_cons x, hR.append hbrought hrest⟩

theorem foldOutcome_lighter (hR : Additive R) (a : PolicyAlgorithm) (ra : Bool) {xs : List α}
    (h : ∀ x ∈ a.visited f ra xs, (f x).Agree R (g x))
    (hd : ∀ x ∈ a.visited f ra xs, (f x).decision ≠ none)
    (hc : ∀ x ∈ xs, (g x).carries → (f x).carries)
    (hb : ∀ x ∈ xs, (g x).carries = false → ∀ e, broughtBy e [g x] = []) :
    AgreeTo R (a.foldOutcome f ra xs) (a.foldOutcome g ra xs) := by
  apply a.foldOutcome_agree hR h hd
  intro winner hs
  unfold visited at h hd
  simp only [hs] at h hd
  obtain ⟨hsub, hbrought⟩ := reached_lighter hR winner (by simp) h hd hc fun x hx hcx =>
    hb x hx hcx winner
  exact ⟨fun x hx => (h x (hsub.subset hx)).decision ▸ hd x (hsub.subset hx), hbrought⟩

theorem outcome_lighter (hR : Additive R) (a : PolicyAlgorithm) (ra : Bool)
    {slots : Option (List (Option α))} (h : ∀ x ∈ a.visitedIn f ra slots, (f x).Agree R (g x))
    (hd : ∀ x ∈ a.visitedIn f ra slots, (f x).decision ≠ none)
    (hc : ∀ x ∈ presentIn slots, (g x).carries → (f x).carries)
    (hb : ∀ x ∈ presentIn slots, (g x).carries = false → ∀ e, broughtBy e [g x] = []) :
    AgreeTo R (a.outcome f ra slots) (a.outcome g ra slots) := by
  unfold outcome
  unfold visitedIn at h hd
  cases hp : allPresent? slots with
  | none => exact .refl hR _
  | some xs =>
    rw [hp] at h hd
    exact a.foldOutcome_lighter hR ra h hd (fun x hx => hc x (mem_presentIn hp hx))
      fun x hx => hb x (mem_presentIn hp hx)

end PolicyAlgorithm

namespace Scene

/-- A tree with some of its references replaced by the nodes they lead to, and some of those in these
likewise. -/
inductive Inlines (s : Scene) : Node → Node → Prop
  | same (n : Node) : Inlines s n n
  | here {id n n'} : s.resolve id = some n → Inlines s n n' → Inlines s (.reference id) n'
  | within {h slots slots'} : List.Forall₂ (Option.Rel (Inlines s)) slots slots' →
      Inlines s (.policySet h (some slots)) (.policySet h (some slots'))

/-- An evaluation that comes upon a reference when no more may be opened. -/
inductive Overruns (s : Scene) : Context → Node → Prop
  | here {ctx id n} : s.resolve id = some n → ctx.fresh.enterReference? = none →
      Overruns s ctx (.reference id)
  | behind {ctx inner id n} : s.resolve id = some n → ctx.fresh.enterReference? = some inner →
      Overruns s inner n → Overruns s ctx (.reference id)
  | child {ctx h children a n} : (s.matching.matchTarget h.target ctx.fresh).1 = .matched →
      h.algorithm = some a → n ∈ a.visitedIn (s.alone ctx) s.respectAbandoned children →
      Overruns s ctx n → Overruns s ctx (.policySet h children)

namespace Inlines

variable {s : Scene} {n n' : Node}

/-- A list in which one node is replaced. -/
theorem slots (hi : s.Inlines n n') (before after : List (Option Node)) :
    List.Forall₂ (Option.Rel s.Inlines) (before ++ some n :: after) (before ++ some n' :: after) := by
  have hsame (slots : List (Option Node)) : List.Forall₂ (Option.Rel s.Inlines) slots slots := by
    rw [List.forall₂_same]
    rintro (_ | m) _
    · exact .none
    · exact .some (.same m)
  exact List.rel_append (hsame before) (.cons (.some hi) (hsame after))

/-- A policy set is replaced child by child. -/
theorem exists_children {h : PolicySetHeader} {children : Option (List (Option Node))}
    (hi : s.Inlines (.policySet h children) n') :
    ∃ pairs : Option (List (Option (Node × Node))), children = pairs.map (·.map (·.map (·.1))) ∧
      n' = .policySet h (pairs.map (·.map (·.map (·.2)))) ∧
      ∀ p ∈ presentIn pairs, s.Inlines p.1 p.2 := by
  cases hi with
  | same =>
    refine ⟨children.map (·.map (·.map fun n => (n, n))), ?_, ?_, ?_⟩
    · simp [Function.comp_def]
    · simp [Function.comp_def]
    · intro p hp
      rw [presentIn_map] at hp
      obtain ⟨n, -, rfl⟩ := List.mem_map.mp hp
      exact .same n
  | within hs =>
    obtain ⟨pairs, rfl, rfl, hp⟩ := exists_pairs hs
    exact ⟨some pairs, rfl, rfl, hp⟩

/-- No tree comes to carry obligations by losing references. -/
theorem carries (hi : s.Inlines n n') (hc : n'.carriesObligations) : n.carriesObligations := by
  induction n using Node.induct generalizing n' with
  | hp p =>
    cases hi
    exact hc
  | hr id => rfl
  | hs h children ih =>
    obtain ⟨pairs, rfl, rfl, hp⟩ := hi.exists_children
    rw [Node.carries_policySet, presentIn_map] at hc ⊢
    rw [presentIn_map] at ih
    simp only [Bool.or_eq_true, List.any_map, List.any_eq_true] at hc ⊢
    refine hc.imp_right ?_
    rintro ⟨p, hm, hcp⟩
    exact ⟨p, hm, ih p.1 (List.mem_map_of_mem hm) (hp p hm) hcp⟩

end Inlines

theorem screenedVisit_agree {R : List Obligation → List Obligation → Prop} (hR : Additive R)
    (m : Matching) (target : Option Condition) {out out' : Option (Decision × Notes)}
    (ho : (m.targetOutcome target).1 = .matched → out.Rel (AgreeTo R) out')
    (declared : List Obligation) (carries carries' : Bool) :
    (screenedVisit m target out declared carries).Agree R
      (screenedVisit m target out' declared carries') := by
  unfold screenedVisit
  generalize m.targetOutcome target = t at ho ⊢
  rcases t with ⟨t, n⟩
  cases t with
  | unmatched => exact ⟨rfl, rfl, rfl, rfl, fun _ _ => hR.refl _⟩
  | indeterminate => exact ⟨rfl, rfl, rfl, rfl, fun _ _ => hR.refl _⟩
  | matched =>
    cases ho rfl with
    | none => exact ⟨rfl, rfl, rfl, rfl, fun _ _ => hR.refl _⟩
    | @some o o' h =>
      refine ⟨h.2.codes, h.2.missing, congrArg some h.1, rfl, ?_⟩
      exact fun e _ => hR.append (hR.refl (obligationsFor e declared)) h.2.obligations

/-- A reference brings what the node brings that it leads to, but in another order. -/
theorem foundVisit_agree {n : Node} {v : Visit} (hv : v.declared = n.obligations) :
    (foundVisit n v).Agree List.Perm v := by
  refine ⟨rfl, rfl, rfl, rfl, ?_⟩
  intro e hd
  have hvd : v.decision = some e.decision := hd
  have he : e.decision.effect? = some e := by cases e <;> rfl
  simpa [foundVisit, Visit.brings, hvd, he, hv] using List.perm_append_comm

/-- A fold comes to the same, if the children it visits agree with those in their place. -/
theorem outcome_agree (s : Scene) (a : PolicyAlgorithm) (ra : Bool) {ctx ctx' : Context}
    {pairs : Option (List (Option (Node × Node)))} (hp : ∀ p ∈ presentIn pairs, s.Inlines p.1 p.2)
    (he : ∀ p ∈ presentIn pairs, s.Equipped p.1)
    (h : ∀ p ∈ presentIn pairs, p.1 ∈ a.visitedIn (s.alone ctx) ra (pairs.map (·.map (·.map (·.1)))) →
      (s.alone ctx p.1).Agree List.Perm (s.alone ctx' p.2)) :
    AgreeTo List.Perm (a.outcome (s.alone ctx) ra (pairs.map (·.map (·.map (·.1)))))
      (a.outcome (s.alone ctx') ra (pairs.map (·.map (·.map (·.2))))) := by
  rw [PolicyAlgorithm.visitedIn_map] at h
  rw [PolicyAlgorithm.outcome_map, PolicyAlgorithm.outcome_map]
  apply a.outcome_lighter additive_perm
  · intro p hvis
    exact h p (PolicyAlgorithm.mem_of_visitedIn _ hvis) (List.mem_map_of_mem hvis)
  · intro p hvis
    exact (he p (PolicyAlgorithm.mem_of_visitedIn _ hvis)).alone_decided ctx
  · intro p hm
    exact (hp p hm).carries
  · intro p _ hc e
    exact s.broughtBy_eq_nil ctx' hc e

/-- A reference agrees with what stands in its place, if the node behind it does wherever there is no
less room than behind the reference. -/
theorem reference_agree {s : Scene} {ctx ctx' : Context} {id : String} {n' : Node}
    (hi : s.Inlines (.reference id) n') (hroom : room ctx ≤ room ctx')
    (hl : ¬s.Overruns ctx (.reference id))
    (hb : ∀ n inner, s.resolve id = some n → ctx.fresh.enterReference? = some inner →
      ∀ c m, s.Inlines n m → room inner ≤ room c →
        (s.alone inner n).Agree List.Perm (s.alone c m)) :
    (s.alone ctx (.reference id)).Agree List.Perm (s.alone ctx' n') := by
  cases hres : s.resolve id with
  | none =>
    cases hi with
    | here hn _ => simp [hres] at hn
    | same =>
      simp only [alone_reference, hres]
      exact .refl additive_perm _
  | some n =>
    cases hent : ctx.fresh.enterReference? with
    | none => exact absurd (.here hres hent) hl
    | some inner =>
      have hbehind := hb n inner hres hent
      have hless : room inner + 1 = room ctx := @room_of_enterReference? ctx.fresh inner hent
      rw [s.alone_found hres hent]
      apply (foundVisit_agree rfl).trans
      cases hi with
      | here hn hi =>
        obtain rfl := Option.some.inj (hres.symm.trans hn)
        exact hbehind ctx' n' hi (by omega)
      | same =>
        obtain ⟨inner', hent'⟩ : ∃ inner', ctx'.fresh.enterReference? = some inner' :=
          exists_enterReference? (show 0 < room ctx' by omega)
        have hless' : room inner' + 1 = room ctx' := @room_of_enterReference? ctx'.fresh inner' hent'
        rw [s.alone_found hres hent']
        exact (hbehind inner' n (.same n) (by omega)).trans (foundVisit_agree rfl).symm

/-- What a tree comes to alone, it comes to with references replaced and with no less room for the
rest, the order of obligations aside. -/
theorem alone_agree {s : Scene} {ctx ctx' : Context} {n n' : Node} (hi : s.Inlines n n')
    (hroom : room ctx ≤ room ctx') (he : s.Equipped n) (hl : ¬s.Overruns ctx n) :
    (s.alone ctx n).Agree List.Perm (s.alone ctx' n') := by
  induction ctx, n using s.induct generalizing ctx' n' with
  | policy ctx p =>
    cases hi
    rw [alone_policy, alone_policy]
    exact .refl additive_perm _
  | policySet ctx h children ih =>
    obtain ⟨pairs, rfl, rfl, hp⟩ := hi.exists_children
    have hpresent {p : Node × Node} (hm : p ∈ presentIn pairs) :
        p.1 ∈ presentIn (pairs.map (·.map (·.map (·.1)))) := mem_presentIn_map (·.1) hm
    rw [alone_policySet, alone_policySet]
    apply screenedVisit_agree additive_perm
    -- No child is evaluated unless the target matches, so none has overrun either.
    intro ht
    have hmatched : (s.matching.matchTarget h.target ctx.fresh).1 = .matched :=
      (congrArg (·.1) (s.matching.matchTarget_after h.target ctx.fresh)).trans ht
    cases ha : h.algorithm with
    | none => exact .none
    | some a =>
      refine .some (s.outcome_agree a s.respectAbandoned hp (fun p hm => he.child (hpresent hm)) ?_)
      intro p hm hvis
      exact ih p.1 (hpresent hm) (hp p hm) hroom (he.child (hpresent hm)) fun hover =>
        hl (.child hmatched ha hvis hover)
  | reference ctx id ih =>
    apply reference_agree hi hroom hl
    intro n inner hres hent c m hin hinner
    exact ih n inner hres hent hin hinner (he.behind hres) fun hover => hl (.behind hres hent hover)

/-- The same to whoever does not look at lookups or at the order of obligations. -/
structure Rearranged (out out' : Decision × Context) : Prop where
  decision : out.1 = out'.1
  statusCode : out.2.statusCode = out'.2.statusCode
  statusCodes : out.2.statusCodes = out'.2.statusCodes
  missing : out.2.missing = out'.2.missing
  obligations : out.2.obligations.Perm out'.2.obligations

/-- What the search for the one applicable child goes by: the decision of a child, and whether its
target matched. -/
def view (s : Scene) (ctx : Context) (n : Node) : Option Decision × Bool :=
  ((s.evaluateNode n ctx.resetStatus).1, (s.evaluateNode n ctx.resetStatus).2.targetMatched)

/-- Nothing shows that nodes stand in the place of the references that lead to them. -/
structure Transparent (s : Scene) (a : PolicyAlgorithm) (ra : Bool) (slots slots' : List (Option Node))
    (ctx : Context) : Prop where
  outcome : Rearranged (a.combine ra (some (slots.map (·.map (s.childWithin (room ctx))))) ctx)
    (a.combine ra (some (slots'.map (·.map (s.childWithin (room ctx))))) ctx)
  /-- However deep in the tree, and whatever was evaluated before. -/
  view : ∀ c n n', c.obligations = [] → s.Inlines n n' → s.Equipped n → ¬s.Overruns c n →
    s.view c n = s.view c n'

theorem view_eq (s : Scene) {ctx : Context} (n : Node) (ho : ctx.obligations = [])
    (hd : (s.alone ctx n).decision ≠ none) :
    s.view ctx n = ((s.alone ctx n).decision, (s.alone ctx n).applicable) := by
  have hrun := s.evaluateNode_resetStatus n ho
  rw [← alone_eq_visitWithin] at hrun
  have hflag : (s.alone ctx n).flag ctx.targetMatched = (s.alone ctx n).applicable :=
    if_pos (Option.isSome_iff_ne_none.mpr hd)
  rw [view, hrun, Visit.result, hflag]
  rfl

/-- To replace references by the nodes they lead to, anywhere in the trees of a fold, changes neither the
decision nor the status nor the obligations but for their order, if all that may be reached has an
algorithm and no reference was met when no more could be opened. -/
theorem inlining_transparent (s : Scene) (a : PolicyAlgorithm) (ra : Bool)
    (slots slots' : List (Option Node)) (ctx : Context) (ho : ctx.obligations = [])
    (hi : List.Forall₂ (Option.Rel s.Inlines) slots slots')
    (he : ∀ n ∈ presentIn (some slots), s.Equipped n)
    (hl : ∀ n ∈ a.visitedIn (s.alone ctx) ra (some slots), ¬s.Overruns ctx n) :
    s.Transparent a ra slots slots' ctx where
  outcome := by
    obtain ⟨pairs, rfl, rfl, hp⟩ := exists_pairs hi
    have hpresent {p : Node × Node} (hm : p ∈ presentIn (some pairs)) :
        p.1 ∈ presentIn (some (pairs.map (·.map (·.1)))) := mem_presentIn_map (·.1) hm
    obtain ⟨hd, hn⟩ := s.outcome_agree a ra hp (fun p hm => he p.1 (hpresent hm)) fun p hm hvis =>
      alone_agree (hp p hm) (Nat.le_refl _) (he p.1 (hpresent hm)) (hl p.1 hvis)
    obtain ⟨b, hout⟩ := s.combineNodes_eq a ra (some (pairs.map (·.map (·.1)))) ctx ho
    obtain ⟨b', hout'⟩ := s.combineNodes_eq a ra (some (pairs.map (·.map (·.2)))) ctx ho
    rw [Option.map_some] at hout hout'
    rw [hout, hout']
    exact ⟨hd, congrArg (·.headD .ok) hn.codes, hn.codes, hn.missing, hn.obligations⟩
  view c n n' hc hi he hl := by
    have hd := he.alone_decided c
    have hv := alone_agree hi (Nat.le_refl _) he hl
    rw [s.view_eq n hc hd, s.view_eq n' hc (hv.decision ▸ hd), hv.decision, hv.applicable]

/-- A set behind a reference brings first what its policy left, and in the place of the reference first
what it declares itself. -/
theorem inlining_transparent_nested :
    let library : Node := .policySet
      { id := "library", algorithm := some .denyOverrides, obligations := [⟨"own", .deny, []⟩] }
      (some [some (.policy (.always "p" .deny ["inner"]))])
    let s := { leadingTo library with respectAbandoned := true }
    let slotsWith (n : Node) : List (Option Node) :=
      [some (.policySet { id := "set", algorithm := some .onlyOneApplicable } (some [some n])),
        some (.policy (.always "q" .deny ["last"]))]
    let combine (n : Node) := s.combineNodes .denyOverrides (some (slotsWith n)) {}
    s.Transparent .denyOverrides true (slotsWith (.reference "library")) (slotsWith library) {} ∧
      (combine (.reference "library")).2.obligations =
        [⟨"inner", .deny, []⟩, ⟨"own", .deny, []⟩, ⟨"last", .deny, []⟩] ∧
      (combine library).2.obligations =
        [⟨"own", .deny, []⟩, ⟨"inner", .deny, []⟩, ⟨"last", .deny, []⟩] := by
  intro library s slotsWith combine
  have hslots : ∀ n ∈ presentIn (some (slotsWith (.reference "library"))),
      n = .policySet { id := "set", algorithm := some .onlyOneApplicable }
          (some [some (.reference "library")]) ∨ n = .policy (.always "q" .deny ["last"]) := by
    simp [slotsWith, presentIn]
  refine ⟨s.inlining_transparent .denyOverrides true _ _ {} rfl ?_ ?_ ?_, by decide, by decide⟩
  · have hset : s.Inlines (.reference "library") library := .here rfl (.same library)
    exact (Inlines.within (hset.slots [] [])).slots [] _
  · intro n hn m hm
    rcases hslots n hn with rfl | rfl
    · cases hm with
      | self => rfl
      | child hc hm =>
        obtain rfl : _ = Node.reference "library" := by simpa [presentIn] using hc
        cases hm with
        | self => rfl
        | reference hid hm =>
          obtain rfl := Option.some.inj hid
          change s.Reaches (.policySet _ _) _ at hm
          cases hm with
          | self => rfl
          | child hc hm =>
            obtain rfl : _ = Node.policy (.always "p" .deny ["inner"]) := by simpa [presentIn] using hc
            cases hm
            rfl
    · cases hm
      rfl
  · intro n hn hover
    rcases hslots n (PolicyAlgorithm.mem_of_visitedIn _ hn) with rfl | rfl
    · cases hover with
      | child _ _ hc hover =>
        obtain rfl : _ = Node.reference "library" := by
          simpa [presentIn] using PolicyAlgorithm.mem_of_visitedIn _ hc
        cases hover with
        | here _ hfull => cases hfull
        | behind hid _ hover =>
          obtain rfl := Option.some.inj hid
          change s.Overruns _ (.policySet _ _) at hover
          cases hover with
          | child _ _ hc hover =>
            obtain rfl : _ = Node.policy (.always "p" .deny ["inner"]) := by
              simpa [presentIn] using PolicyAlgorithm.mem_of_visitedIn _ hc
            cases hover
    · cases hover

end Scene

end Arbiter
