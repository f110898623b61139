import Arbiter.Proofs.Tree

/-! Relations that evaluation keeps.

Two evaluations that start from related contexts, and whose children answer alike on related contexts,
decide alike and end on related contexts. The folds are gone through once for all such relations. -/

namespace Arbiter

/-- On related contexts the results are the same and the contexts left are related. -/
def Keeps (R : Context → Context → Prop) (f g : Context → β × Context) : Prop :=
  ∀ ctx ctx', R ctx ctx' → (f ctx).1 = (g ctx').1 ∧ R (f ctx).2 (g ctx').2

theorem Keeps.both {R : Context → Context → Prop} {f g : Context → β × Context} (h : Keeps R f g)
    {ctx ctx' : Context} (hr : R ctx ctx') :
    ∃ b c c', f ctx = (b, c) ∧ g ctx' = (b, c') ∧ R c c' :=
  ⟨(f ctx).1, (f ctx).2, (g ctx').2, rfl, Prod.ext (h ctx ctx' hr).1.symm rfl, (h ctx ctx' hr).2⟩

/-- A relation between contexts, and one between harvests, that no step of an evaluation can break.
Related contexts agree in all that a fold looks at. -/
structure Stable (R : Context → Context → Prop) (H : Harvest → Harvest → Prop) : Prop where
  statusCodes : ∀ {ctx ctx'}, R ctx ctx' → ctx.statusCodes = ctx'.statusCodes
  missing : ∀ {ctx ctx'}, R ctx ctx' → ctx.missing = ctx'.missing
  targetMatched : ∀ {ctx ctx'}, R ctx ctx' → ctx.targetMatched = ctx'.targetMatched
  looked : ∀ {ctx ctx'}, R ctx ctx' → ∀ ds,
    R { ctx with lookups := ctx.lookups ++ ds } { ctx' with lookups := ctx'.lookups ++ ds }
  resetStatus : ∀ {ctx ctx'}, R ctx ctx' → R ctx.resetStatus ctx'.resetStatus
  report : ∀ {ctx ctx'}, R ctx ctx' → ∀ c, R (ctx.report c) (ctx'.report c)
  setMissing : ∀ {ctx ctx'}, R ctx ctx' → ∀ ms, R (ctx.setMissing ms) (ctx'.setMissing ms)
  setTargetMatched : ∀ {ctx ctx'}, R ctx ctx' → ∀ b,
    R (ctx.setTargetMatched b) (ctx'.setTargetMatched b)
  clearObligations : ∀ {ctx ctx'}, R ctx ctx' → R ctx.clearObligations ctx'.clearObligations
  addObligations : ∀ {ctx ctx'}, R ctx ctx' → ∀ os e,
    R (ctx.addObligations os e) (ctx'.addObligations os e)
  nil : H [] []
  add : ∀ {ctx ctx' h h'}, R ctx ctx' → H h h' → ∀ os d, H (h.add os d ctx).1 (h'.add os d ctx').1
  finish : ∀ {ctx ctx' h h'}, R ctx ctx' → H h h' → ∀ d, R (h.finish d ctx).2 (h'.finish d ctx').2

/-- A relation between contexts, and that between those with one reference more open. Related contexts
enter alike, and what is entered is left again. -/
structure Enters (R R' : Context → Context → Prop) : Prop where
  enter : ∀ {ctx ctx'}, R ctx ctx' → Option.Rel R' ctx.enterReference? ctx'.enterReference?
  leave : ∀ {ctx ctx'}, R' ctx ctx' → R ctx.leaveReference ctx'.leaveReference

/-- Children that declare alike and answer alike on related contexts. -/
structure Child.Like (R : Context → Context → Prop) (c c' : Child) : Prop where
  declared : c.declared = c'.declared
  carries : c.carries = c'.carries
  run : Keeps R c.run c'.run

theorem Harvest.add_context (h : Harvest) (os : List Obligation) (d : Decision) (ctx : Context) :
    (h.add os d ctx).2 = ctx.clearObligations := by
  unfold add
  split <;> rfl

theorem Harvest.finish_decision (h : Harvest) (d : Decision) (ctx : Context) :
    (h.finish d ctx).1 = d := by
  unfold finish
  cases d <;> rfl

namespace Stable

variable {R : Context → Context → Prop} {H : Harvest → Harvest → Prop} {ctx ctx' : Context}

section

variable (hs : Stable R H)

include hs

theorem reportAll (hr : R ctx ctx') (cs : List StatusCode) :
    R (ctx.reportAll cs) (ctx'.reportAll cs) := by
  induction cs generalizing ctx ctx' with
  | nil => exact hr
  | cons c cs ih => exact ih (hs.report hr c)

theorem addMissing (hr : R ctx ctx') (m : MissingAttribute) :
    R (ctx.addMissing m) (ctx'.addMissing m) := by
  have h := hs.setMissing hr (addNew ctx.missing m)
  rwa [show ctx'.setMissing (addNew ctx.missing m) = ctx'.addMissing m by
    rw [hs.missing hr]; rfl] at h

theorem harvest_context (hr : R ctx ctx') (h h' : Harvest) (os : List Obligation) (d : Decision) :
    R (h.add os d ctx).2 (h'.add os d ctx').2 := by
  rw [Harvest.add_context, Harvest.add_context]
  exact hs.clearObligations hr

theorem illFormed : Keeps R Context.illFormed Context.illFormed := fun _ _ hr =>
  ⟨rfl, hs.report (hs.resetStatus (hs.clearObligations hr)) .syntaxError⟩

theorem ended {h h' : Harvest} (hh : H h h') (d : Decision) : Keeps R (h.finish d) (h'.finish d) :=
  fun _ _ hr => ⟨by rw [Harvest.finish_decision, Harvest.finish_decision], hs.finish hr hh d⟩

theorem faulted (f : Faults) : Keeps R f.indeterminate f.indeterminate := fun _ _ hr =>
  ⟨rfl, hs.setMissing (hs.reportAll (hs.resetStatus (hs.clearObligations hr)) f.codes) f.missing⟩

theorem record (hr : R ctx ctx') (f : Faults) : f.record ctx = f.record ctx' := by
  rw [Faults.record, Faults.record, hs.statusCodes hr, hs.missing hr]

end

end Stable

/-- Tallies that differ in their harvests at most. -/
structure ChildTally.Like (H : Harvest → Harvest → Prop) (t t' : ChildTally) : Prop where
  harvest : H t.harvest t'.harvest
  faults : t.faults = t'.faults
  permitted : t.permitted = t'.permitted
  denied : t.denied = t'.denied

/-- The same for tallies of rules. -/
structure RuleTally.Like (H : Harvest → Harvest → Prop) (t t' : RuleTally) : Prop where
  harvest : H t.harvest t'.harvest
  faults : t.faults = t'.faults
  overridden : t.overridden = t'.overridden
  potential : t.potential = t'.potential

/-- Selections that differ in their harvests at most. -/
structure Selection.Like (H : Harvest → Harvest → Prop) (s s' : Selection) : Prop where
  decision : s.decision = s'.decision
  harvest : H s.harvest s'.harvest
  faults : s.faults = s'.faults

section

variable {R : Context → Context → Prop} {H : Harvest → Harvest → Prop} (hs : Stable R H)

include hs

namespace ChildTally

omit hs in
theorem Like.has {t t' : ChildTally} (ht : t.Like H t') (e : Effect) : t.has e = t'.has e := by
  cases e with
  | permit => exact ht.permitted
  | deny => exact ht.denied

theorem Like.note {t t' : ChildTally} (ht : t.Like H t') {h h' : Harvest} (hh : H h h')
    {ctx ctx' : Context} (hr : R ctx ctx') (d : Decision) :
    (t.note d h ctx).Like H (t'.note d h' ctx') := by
  cases d with
  | permit => exact ⟨hh, ht.faults, rfl, ht.denied⟩
  | deny => exact ⟨hh, ht.faults, ht.permitted, rfl⟩
  | notApplicable => exact ⟨hh, ht.faults, ht.permitted, ht.denied⟩
  | indeterminate =>
    refine ⟨hh, ?_, ht.permitted, ht.denied⟩
    simp only [ChildTally.note, ht.faults, hs.record hr]

theorem Like.conclude {t t' : ChildTally} (ht : t.Like H t') (winner : Effect) :
    Keeps R (t.conclude winner) (t'.conclude winner) := by
  intro ctx ctx' hr
  have hfin (d : Decision) := hs.ended ht.harvest d ctx ctx' hr
  have hind := hs.faulted t.faults ctx ctx' hr
  rw [ht.faults] at hind
  cases winner with
  | deny =>
    simp only [ChildTally.conclude, ht.permitted, ht.denied, ht.faults]
    split
    · exact hfin .deny
    · split
      · exact hind
      · split
        · exact hfin .permit
        · exact hfin .notApplicable
  | permit =>
    simp only [ChildTally.conclude, ht.permitted, ht.denied, ht.faults]
    split
    · exact hfin .permit
    · split
      · exact hfin .deny
      · split
        · exact hind
        · exact hfin .notApplicable

end ChildTally

namespace RuleTally

theorem Like.note {t t' : RuleTally} (ht : t.Like H t') {h h' : Harvest} (hh : H h h')
    {ctx ctx' : Context} (hr : R ctx ctx') (winner : Effect) (r : Rule) (d : Decision) :
    (t.note winner r d h ctx).Like H (t'.note winner r d h' ctx') := by
  cases d with
  | permit => exact ⟨hh, ht.faults, rfl, ht.potential⟩
  | deny => exact ⟨hh, ht.faults, rfl, ht.potential⟩
  | notApplicable => exact ⟨hh, ht.faults, ht.overridden, ht.potential⟩
  | indeterminate =>
    refine ⟨hh, ?_, ht.overridden, ?_⟩
    · simp only [RuleTally.note, ht.faults, hs.record hr]
    · simp only [RuleTally.note, ht.potential]

theorem Like.conclude {t t' : RuleTally} (ht : t.Like H t') (loser : Effect) :
    Keeps R (t.conclude loser) (t'.conclude loser) := by
  intro ctx ctx' hr
  have hfin (d : Decision) := hs.ended ht.harvest d ctx ctx' hr
  have hind := hs.faulted t.faults ctx ctx' hr
  rw [ht.faults] at hind
  simp only [RuleTally.conclude, ht.overridden, ht.potential, ht.faults]
  split
  · exact hind
  · split
    · exact hfin loser.decision
    · split
      · exact hfin .notApplicable
      · exact hind

end RuleTally

theorem Matcher.run_keeps (m : Matcher) (src : Source) (c : Condition) :
    Keeps R (m.run src c) (m.run src c) := by
  intro ctx ctx' hr
  cases m with
  | always r => exact ⟨rfl, hr⟩
  | byValue =>
    have hl := hs.looked hr (c.evaluate src).lookups
    simp only [Matcher.run, Context.record]
    cases (c.evaluate src).result with
    | ok b => exact ⟨rfl, hl⟩
    | error f =>
      have hc := hs.report hl f.error.status
      dsimp only
      generalize f.error = err at hc
      cases err with
      | missingAttribute d => exact ⟨rfl, hs.addMissing hc d⟩
      | _ => exact ⟨rfl, hc⟩

namespace Matching

theorem matchTarget_keeps (m : Matching) (c : Option Condition) :
    Keeps R (m.matchTarget c) (m.matchTarget c) := by
  cases c with
  | none => exact fun _ _ hr => ⟨rfl, hr⟩
  | some c => exact Matcher.run_keeps hs m.target m.source c

theorem matchCondition_keeps (m : Matching) (c : Option Condition) :
    Keeps R (m.matchCondition c) (m.matchCondition c) := by
  cases c with
  | none => exact fun _ _ hr => ⟨rfl, hr⟩
  | some c => exact Matcher.run_keeps hs m.condition m.source c

end Matching

theorem Rule.evaluate_keeps (m : Matching) (r : Rule) : Keeps R (r.evaluate m) (r.evaluate m) := by
  intro ctx ctx' hr
  obtain ⟨t, c, c', hf, hg, hr⟩ := (m.matchTarget_keeps hs r.target).both hr
  simp only [Rule.evaluate, hf, hg]
  cases t with
  | unmatched => exact ⟨rfl, hr⟩
  | indeterminate => exact ⟨rfl, hr⟩
  | matched =>
    obtain ⟨t, k, k', hf, hg, hr⟩ := (m.matchCondition_keeps hs r.condition).both hr
    simp only [hf, hg]
    cases t <;> exact ⟨rfl, hr⟩

namespace RuleAlgorithm

theorem overrides_keeps (m : Matching) (winner : Effect) (rs : List Rule) {t t' : RuleTally}
    (ht : t.Like H t') : Keeps R (overrides m winner rs t) (overrides m winner rs t') := by
  induction rs generalizing t t' with
  | nil => exact ht.conclude hs winner.opposite
  | cons r rs ih =>
    intro ctx ctx' hr
    obtain ⟨d, c, c', hf, hg, hr⟩ := (r.evaluate_keeps hs m).both (hs.resetStatus hr)
    have hh := hs.add hr ht.harvest r.obligations d
    have hc := hs.harvest_context hr t.harvest t'.harvest r.obligations d
    simp only [overrides, hf, hg]
    split
    · exact hs.ended hh d _ _ hc
    · exact ih (ht.note hs hh hc winner r _) _ _ hc

theorem firstApplicableOf_keeps (m : Matching) (rs : List Rule) :
    Keeps R (firstApplicableOf m rs) (firstApplicableOf m rs) := by
  induction rs with
  | nil => exact hs.ended hs.nil .notApplicable
  | cons r rs ih =>
    intro ctx ctx' hr
    obtain ⟨d, c, c', hf, hg, hr⟩ := (r.evaluate_keeps hs m).both (hs.resetStatus hr)
    have hlone (d : Decision) := hs.ended (hs.add hr hs.nil r.obligations d) d _ _
      (hs.harvest_context hr [] [] r.obligations d)
    simp only [firstApplicableOf, hf, hg]
    cases d with
    | notApplicable => exact ih _ _ (hs.clearObligations hr)
    | indeterminate =>
      rw [hs.record hr]
      exact hs.faulted _ _ _ hr
    | permit => exact hlone .permit
    | deny => exact hlone .deny

theorem combine_keeps (a : RuleAlgorithm) (m : Matching) (slots : Option (List (Option Rule))) :
    Keeps R (a.combine m slots) (a.combine m slots) := by
  have ht : RuleTally.Like H {} {} := ⟨hs.nil, rfl, rfl, rfl⟩
  unfold combine
  cases allPresent? slots with
  | none => exact hs.illFormed
  | some rs =>
    cases a with
    | firstApplicable => exact firstApplicableOf_keeps hs m rs
    | denyOverrides => exact overrides_keeps hs m .deny rs ht
    | orderedDenyOverrides => exact overrides_keeps hs m .deny rs ht
    | permitOverrides => exact overrides_keeps hs m .permit rs ht
    | orderedPermitOverrides => exact overrides_keeps hs m .permit rs ht

end RuleAlgorithm

namespace PolicyAlgorithm

variable {child child' : α → Child}

theorem overrides_keeps (winner : Effect) (ra : Bool) {xs : List α}
    (hx : ∀ x ∈ xs, (child x).Like R (child' x)) {t t' : ChildTally} (ht : t.Like H t') :
    Keeps R (overrides winner ra (xs.map child) t) (overrides winner ra (xs.map child') t') := by
  induction xs generalizing t t' with
  | nil => exact ht.conclude hs winner
  | cons x xs ih =>
    intro ctx ctx' hr
    have hxs : ∀ y ∈ xs, (child y).Like R (child' y) := fun y hy => hx y (List.mem_cons_of_mem x hy)
    have hc := hx x List.mem_cons_self
    obtain ⟨o, c, c', hf, hg, hrun⟩ := hc.run.both (hs.resetStatus hr)
    simp only [List.map_cons, overrides, ht.has winner, hc.carries, hc.declared, hf, hg]
    split
    · exact ih hxs ht _ _ hr
    · cases o with
      | none => exact hs.illFormed _ _ hrun
      | some d =>
        have hh := hs.add hrun ht.harvest (child' x).declared d
        have hk := hs.harvest_context hrun t.harvest t'.harvest (child' x).declared d
        dsimp only
        split
        · exact hs.ended hh d _ _ hk
        · exact ih hxs (ht.note hs hh hk d) _ _ hk

theorem firstApplicableOf_keeps {xs : List α} (hx : ∀ x ∈ xs, (child x).Like R (child' x)) :
    Keeps R (firstApplicableOf (xs.map child)) (firstApplicableOf (xs.map child')) := by
  induction xs with
  | nil => exact hs.ended hs.nil .notApplicable
  | cons x xs ih =>
    intro ctx ctx' hr
    have hxs : ∀ y ∈ xs, (child y).Like R (child' y) := fun y hy => hx y (List.mem_cons_of_mem x hy)
    have hc := hx x List.mem_cons_self
    obtain ⟨o, c, c', hf, hg, hrun⟩ := hc.run.both (hs.resetStatus hr)
    have hlone (d : Decision) := hs.ended (hs.add hrun hs.nil (child' x).declared d) d _ _
      (hs.harvest_context hrun [] [] (child' x).declared d)
    simp only [List.map_cons, firstApplicableOf, hc.declared, hf, hg]
    cases o with
    | none => exact hs.illFormed _ _ hrun
    | some d =>
      cases d with
      | notApplicable => exact ih hxs _ _ (hs.clearObligations hrun)
      | indeterminate =>
        dsimp only
        rw [hs.record hrun]
        exact hs.faulted _ _ _ hrun
      | permit => exact hlone .permit
      | deny => exact hlone .deny

theorem concludeSelection_keeps {s s' : Option Selection} (hsel : Option.Rel (Selection.Like H) s s') :
    Keeps R (concludeSelection s) (concludeSelection s') := by
  cases hsel with
  | none => exact hs.ended hs.nil .notApplicable
  | @some s s' h =>
    obtain ⟨d, hv, f⟩ := s
    obtain ⟨d', hv', f'⟩ := s'
    obtain ⟨rfl, hh, rfl⟩ : d = d' ∧ H hv hv' ∧ f = f' := ⟨h.decision, h.harvest, h.faults⟩
    cases d with
    | indeterminate => exact hs.faulted f
    | permit => exact hs.ended hh .permit
    | deny => exact hs.ended hh .deny
    | notApplicable => exact hs.ended hh .notApplicable

theorem ambiguous_keeps : Keeps R ambiguous ambiguous := fun _ _ hr =>
  ⟨rfl, hs.report (hs.resetStatus (hs.clearObligations hr)) .processingError⟩

theorem onlyOneApplicableOf_keeps {xs : List α} (hx : ∀ x ∈ xs, (child x).Like R (child' x))
    {s s' : Option Selection} (hsel : Option.Rel (Selection.Like H) s s') :
    Keeps R (onlyOneApplicableOf (xs.map child) s) (onlyOneApplicableOf (xs.map child') s') := by
  induction xs generalizing s s' with
  | nil => exact concludeSelection_keeps hs hsel
  | cons x xs ih =>
    intro ctx ctx' hr
    have hxs : ∀ y ∈ xs, (child y).Like R (child' y) := fun y hy => hx y (List.mem_cons_of_mem x hy)
    have hc := hx x List.mem_cons_self
    have hsome : s.isSome = s'.isSome := by cases hsel <;> rfl
    obtain ⟨o, c, c', hf, hg, hrun⟩ := hc.run.both (hs.resetStatus hr)
    simp only [List.map_cons, onlyOneApplicableOf, hc.declared, hf, hg]
    cases o with
    | none => exact hs.illFormed _ _ hrun
    | some d =>
      have hh := hs.add hrun hs.nil (child' x).declared d
      have hk := hs.harvest_context hrun [] [] (child' x).declared d
      have hfound (f : Faults) : Option.Rel (Selection.Like H)
          (some ⟨d, (Harvest.add [] (child' x).declared d c).1, f⟩)
          (some ⟨d, (Harvest.add [] (child' x).declared d c').1, f⟩) := .some ⟨rfl, hh, rfl⟩
      simp only [hs.targetMatched hrun, hsome, hs.record hrun]
      split
      · split
        · exact ih hxs hsel _ _ (hs.clearObligations hrun)
        · exact hs.faulted _ _ _ hrun
      · split
        · exact ambiguous_keeps hs _ _ hrun
        · exact ih hxs (hfound _) _ _ hk

theorem combine_keeps (a : PolicyAlgorithm) (ra : Bool) (slots : Option (List (Option α)))
    (hx : ∀ x ∈ presentIn slots, (child x).Like R (child' x)) :
    Keeps R (a.combine ra (slots.map (·.map (·.map child))))
      (a.combine ra (slots.map (·.map (·.map child')))) := by
  have ht : ChildTally.Like H {} {} := ⟨hs.nil, rfl, rfl, rfl⟩
  unfold combine
  rw [allPresent?_map, allPresent?_map]
  cases hp : allPresent? slots with
  | none => exact hs.illFormed
  | some xs =>
    have hxs : ∀ x ∈ xs, (child x).Like R (child' x) := fun x h => hx x (mem_presentIn hp h)
    cases a with
    | denyOverrides => exact overrides_keeps hs .deny ra hxs ht
    | orderedDenyOverrides => exact overrides_keeps hs .deny ra hxs ht
    | permitOverrides => exact overrides_keeps hs .permit ra hxs ht
    | orderedPermitOverrides => exact overrides_keeps hs .permit ra hxs ht
    | firstApplicable => exact firstApplicableOf_keeps hs hxs
    | onlyOneApplicable => exact onlyOneApplicableOf_keeps hs hxs .none

end PolicyAlgorithm

theorem screened_keeps (m : Matching) (target : Option Condition)
    {rest rest' : Context → Option Decision × Context} (hrest : Keeps R rest rest') :
    Keeps R (screened m target rest) (screened m target rest') := by
  intro ctx ctx' hr
  obtain ⟨t, c, c', hf, hg, hr⟩ := (m.matchTarget_keeps hs target).both hr
  simp only [screened, hf, hg]
  cases t with
  | unmatched => exact ⟨rfl, hs.setTargetMatched hr false⟩
  | indeterminate => exact ⟨rfl, hs.setTargetMatched hr false⟩
  | matched =>
    obtain ⟨o, k, k', hf, hg, hr⟩ := hrest.both hr
    simp only [hf, hg]
    cases o with
    | none => exact ⟨rfl, hr⟩
    | some d => exact ⟨rfl, hs.setTargetMatched hr true⟩

omit hs in
theorem decideBy_keeps {algorithm : Option α} {combine combine' : α → Context → Decision × Context}
    (h : ∀ a, Keeps R (combine a) (combine' a)) :
    Keeps R (decideBy algorithm combine) (decideBy algorithm combine') := by
  intro ctx ctx' hr
  cases algorithm with
  | none => exact ⟨rfl, hr⟩
  | some a => exact ⟨congrArg some (h a ctx ctx' hr).1, (h a ctx ctx' hr).2⟩

theorem Policy.run_keeps (s : Scene) (p : Policy) : Keeps R (p.run s) (p.run s) :=
  screened_keeps hs s.matching p.target
    (decideBy_keeps fun a => a.combine_keeps hs s.matching p.rules)

/-- A policy set whose children answer alike. -/
theorem PolicySetHeader.run_keeps (s : Scene) (h : PolicySetHeader)
    {children : Option (List (Option α))} {child child' : α → Child}
    (hx : ∀ x ∈ presentIn children, (child x).Like R (child' x)) :
    Keeps R (h.run s (children.map (·.map (·.map child))))
      (h.run s (children.map (·.map (·.map child')))) :=
  screened_keeps hs s.matching h.target
    (decideBy_keeps fun a => a.combine_keeps hs s.respectAbandoned children hx)

theorem Context.referenceFault_keeps : Keeps R Context.referenceFault Context.referenceFault :=
  fun _ _ hr => ⟨rfl, hs.report (hs.clearObligations (hs.setTargetMatched hr false)) .processingError⟩

/-- A reference evaluates alike if what it leads to does. -/
theorem Scene.follow_keeps (s : Scene) {R' : Context → Context → Prop} (he : Enters R R')
    {childOf childOf' : Node → Child} (h : ∀ n, Keeps R' (childOf n).run (childOf' n).run)
    (id : String) :
    Keeps R (s.follow childOf id) (s.follow childOf' id) := by
  intro ctx ctx' hr
  have hfault := Context.referenceFault_keeps hs ctx ctx' hr
  unfold follow
  cases s.resolve id with
  | none => exact hfault
  | some node =>
    have hrel := he.enter hr
    generalize ctx.enterReference? = e at hrel
    generalize ctx'.enterReference? = e' at hrel
    cases hrel with
    | none => exact hfault
    | some hin =>
      obtain ⟨o, c, c', hf, hg, hrun⟩ := (h node).both hin
      have hleft := he.leave hrun
      simp only [hf, hg]
      cases o with
      | none => exact ⟨rfl, hleft⟩
      | some d =>
        dsimp only
        cases d.effect? with
        | none => exact ⟨rfl, hleft⟩
        | some e => exact ⟨rfl, hs.addObligations hleft node.obligations e⟩

/-- Trees evaluate alike if references do. -/
theorem Node.child_like (s : Scene) {childOf childOf' : Node → Child}
    (hf : ∀ id, Keeps R (s.follow childOf id) (s.follow childOf' id)) (n : Node) :
    (n.child s childOf).Like R (n.child s childOf') := by
  induction n using Node.induct with
  | hp p => exact ⟨rfl, rfl, p.run_keeps hs s⟩
  | hs h children ih =>
    rw [child, child, childrenOf_eq_map, childrenOf_eq_map]
    exact ⟨rfl, rfl, h.run_keeps hs s ih⟩
  | hr id => exact ⟨rfl, rfl, hf id⟩

end

/-- Nodes evaluate alike on related contexts. The relation may hang on how many references are open. -/
theorem Scene.childWithin_like (s : Scene) {R : Nat → Context → Context → Prop}
    {H : Harvest → Harvest → Prop} (hs : ∀ d, Stable (R d) H) (he : ∀ d, Enters (R d) (R (d + 1)))
    (k : Nat) (n : Node) (d : Nat) : (s.childWithin k n).Like (R d) (s.childWithin k n) := by
  induction k generalizing n d with
  | zero =>
    have h (_ : Node) := Context.referenceFault_keeps (hs (d + 1))
    exact n.child_like (hs d) s fun id => s.follow_keeps (hs d) (he d) h id
  | succ k ih =>
    exact n.child_like (hs d) s fun id => s.follow_keeps (hs d) (he d) (fun m => (ih m (d + 1)).run) id

end Arbiter
