import Arbiter.Proofs.Combining.Outcome

/-! The mirror image of rules: permit and deny exchanged in effects, in what obligations are bound to and
in decisions.

Conditions know nothing of effects, so each rule of the mirror image turns out as its original does, with
the mirrored effect. One step of the overriding fold takes mirrored tallies to mirrored tallies, and by
that the whole fold where permit overrides is the mirror image of the one where deny does. -/

namespace Arbiter

theorem Effect.opposite_inj {e e' : Effect} : e.opposite = e'.opposite ↔ e = e' := by
  cases e <;> cases e' <;> decide

namespace Decision

def mirror : Decision → Decision
  | permit => deny
  | deny => permit
  | notApplicable => notApplicable
  | indeterminate => indeterminate

theorem mirror_inj {d d' : Decision} : d.mirror = d'.mirror ↔ d = d' := by
  cases d <;> cases d' <;> decide

@[simp] theorem mirror_decision (e : Effect) : e.decision.mirror = e.opposite.decision := by
  cases e <;> rfl

@[simp] theorem effect?_mirror (d : Decision) : d.mirror.effect? = d.effect?.map (·.opposite) := by
  cases d <;> rfl

end Decision

def Obligation.mirror (o : Obligation) : Obligation := { o with fulfillOn := o.fulfillOn.opposite }

theorem obligationsFor_mirror (e : Effect) (os : List Obligation) :
    obligationsFor e.opposite (os.map (·.mirror)) = (obligationsFor e os).map (·.mirror) := by
  simp [obligationsFor, List.filter_map, Function.comp_def, Obligation.appliesTo, Obligation.mirror,
    Effect.opposite_inj]

def Rule.mirror (r : Rule) : Rule :=
  { r with effect := r.effect.opposite, obligations := r.obligations.map (·.mirror) }

/-- The same context, but its obligations mirrored. -/
def Context.mirror (ctx : Context) : Context :=
  { ctx with obligations := ctx.obligations.map (·.mirror) }

/-- The mirror image of what an evaluation comes to: all is as it was but the decision and the
obligations. -/
def mirrored (out : Decision × Context) : Decision × Context := (out.1.mirror, out.2.mirror)

def Harvest.mirror (h : Harvest) : Harvest := h.map fun o => (o.1.opposite, o.2.mirror)

def RuleTally.mirror (t : RuleTally) : RuleTally := { t with harvest := t.harvest.mirror }

namespace RuleAlgorithm

/-- The algorithm where the other effect overrides. -/
def mirror : RuleAlgorithm → RuleAlgorithm
  | denyOverrides => permitOverrides
  | permitOverrides => denyOverrides
  | firstApplicable => firstApplicable
  | orderedDenyOverrides => orderedPermitOverrides
  | orderedPermitOverrides => orderedDenyOverrides

end RuleAlgorithm

namespace Context

variable (ctx : Context)

@[simp] theorem resetStatus_mirror : ctx.mirror.resetStatus = ctx.resetStatus.mirror := rfl

@[simp] theorem clearObligations_mirror : ctx.mirror.clearObligations = ctx.clearObligations.mirror := rfl

@[simp] theorem setMissing_mirror (ms : List MissingAttribute) :
    ctx.mirror.setMissing ms = (ctx.setMissing ms).mirror := rfl

@[simp] theorem report_mirror (c : StatusCode) : ctx.mirror.report c = (ctx.report c).mirror := by
  unfold report
  split <;> rfl

@[simp] theorem reportAll_mirror (cs : List StatusCode) :
    ctx.mirror.reportAll cs = (ctx.reportAll cs).mirror := by
  induction cs generalizing ctx with
  | nil => rfl
  | cons c cs ih => simpa [reportAll] using ih (ctx.report c)

theorem addObligations_mirror (os : List Obligation) (e : Effect) :
    ctx.mirror.addObligations (os.map (·.mirror)) e.opposite = (ctx.addObligations os e).mirror := by
  simp [addObligations, mirror, obligationsFor_mirror]

/-- What a condition leaves on a context does not touch obligations. -/
theorem record_mirror (o : Outcome Bool) :
    ctx.mirror.record o = ((ctx.record o).1, (ctx.record o).2.mirror) := by
  have hlookups : { ctx.mirror with lookups := ctx.mirror.lookups ++ o.lookups } =
      mirror { ctx with lookups := ctx.lookups ++ o.lookups } := rfl
  simp only [record, hlookups, report_mirror]
  cases o.result with
  | ok b => rfl
  | error f =>
    dsimp only
    split <;> rfl

end Context

theorem Matcher.run_mirror (m : Matcher) (s : Source) (c : Condition) (ctx : Context) :
    m.run s c ctx.mirror = ((m.run s c ctx).1, (m.run s c ctx).2.mirror) := by
  cases m with
  | always r => rfl
  | byValue => exact ctx.record_mirror (c.evaluate s)

namespace Matching

theorem matchTarget_mirror (m : Matching) (c : Option Condition) (ctx : Context) :
    m.matchTarget c ctx.mirror = ((m.matchTarget c ctx).1, (m.matchTarget c ctx).2.mirror) := by
  cases c with
  | none => rfl
  | some c => exact m.target.run_mirror m.source c ctx

theorem matchCondition_mirror (m : Matching) (c : Option Condition) (ctx : Context) :
    m.matchCondition c ctx.mirror = ((m.matchCondition c ctx).1, (m.matchCondition c ctx).2.mirror) := by
  cases c with
  | none => rfl
  | some c => exact m.condition.run_mirror m.source c ctx

end Matching

theorem Rule.evaluate_mirror (m : Matching) (r : Rule) (ctx : Context) :
    r.mirror.evaluate m ctx.mirror = mirrored (r.evaluate m ctx) := by
  have htarget : r.mirror.target = r.target := rfl
  have hcondition : r.mirror.condition = r.condition := rfl
  have heffect : r.mirror.effect = r.effect.opposite := rfl
  simp only [evaluate, htarget, hcondition, heffect, m.matchTarget_mirror]
  rcases m.matchTarget r.target ctx with ⟨t, ctx⟩
  cases t with
  | unmatched => rfl
  | indeterminate => rfl
  | matched =>
    simp only [m.matchCondition_mirror]
    rcases m.matchCondition r.condition ctx with ⟨c, ctx⟩
    cases c with
    | unmatched => rfl
    | indeterminate => rfl
    | matched => simp [mirrored]

namespace Harvest

theorem add_mirror (h : Harvest) (declared : List Obligation) (d : Decision) (ctx : Context) :
    h.mirror.add (declared.map (·.mirror)) d.mirror ctx.mirror =
      ((h.add declared d ctx).1.mirror, (h.add declared d ctx).2.mirror) := by
  cases he : d.effect? with
  | none => simp [add, he]
  | some e =>
    have hobligations : ctx.mirror.obligations = ctx.obligations.map (·.mirror) := rfl
    simp [add, he, mirror, obligationsFor_mirror, hobligations, Function.comp_def]

theorem ofEffect_mirror (e : Effect) (h : Harvest) :
    ofEffect e.opposite h.mirror = (ofEffect e h).map (·.mirror) := by
  simp [ofEffect, mirror, List.filter_map, Function.comp_def, Effect.opposite_inj]

theorem finish_mirror (h : Harvest) (d : Decision) (ctx : Context) :
    h.mirror.finish d.mirror ctx.mirror = mirrored (h.finish d ctx) := by
  cases he : d.effect? with
  | none => simp [finish, he, mirrored]
  | some e => simp [finish, he, mirrored, ofEffect_mirror, Context.addObligations_mirror]

end Harvest

theorem Faults.record_mirror (f : Faults) (ctx : Context) : f.record ctx.mirror = f.record ctx := rfl

theorem Faults.indeterminate_mirror (f : Faults) (ctx : Context) :
    f.indeterminate ctx.mirror = mirrored (f.indeterminate ctx) := by
  simp [indeterminate, mirrored, Decision.mirror]

namespace RuleTally

/-- What a rule adds to a tally, mirrored. -/
theorem note_mirror (winner : Effect) (r : Rule) (d : Decision) (h : Harvest) (ctx : Context)
    (t : RuleTally) :
    t.mirror.note winner.opposite r.mirror d.mirror h.mirror ctx.mirror =
      (t.note winner r d h ctx).mirror := by
  have heffect : r.mirror.effect = r.effect.opposite := rfl
  cases d with
  | permit => rfl
  | deny => rfl
  | notApplicable => rfl
  | indeterminate =>
    simp [note, mirror, Decision.mirror, Faults.record_mirror, heffect, Effect.opposite_inj]

theorem conclude_mirror (loser : Effect) (t : RuleTally) (ctx : Context) :
    t.mirror.conclude loser.opposite ctx.mirror = mirrored (t.conclude loser ctx) := by
  have hloser := t.harvest.finish_mirror loser.decision ctx
  have hnone := t.harvest.finish_mirror .notApplicable ctx
  rw [Decision.mirror_decision] at hloser
  simp only [Decision.mirror] at hnone
  simp only [conclude, mirror, Faults.indeterminate_mirror, hloser, hnone]
  split
  · rfl
  · split
    · rfl
    · split <;> rfl

end RuleTally

namespace RuleAlgorithm

/-- One step of an overriding fold keeps its tally mirrored, and it stops where the original does. -/
theorem overrides_mirror (m : Matching) (winner : Effect) (rs : List Rule) (t : RuleTally)
    (ctx : Context) :
    overrides m winner.opposite (rs.map (·.mirror)) t.mirror ctx.mirror =
      mirrored (overrides m winner rs t ctx) := by
  induction rs generalizing t ctx with
  | nil => exact t.conclude_mirror winner.opposite ctx
  | cons r rs ih =>
    have hevaluate := r.evaluate_mirror m ctx.resetStatus
    have hobligations : r.mirror.obligations = r.obligations.map (·.mirror) := rfl
    have hharvest : t.mirror.harvest = t.harvest.mirror := rfl
    simp only [List.map_cons, overrides, Context.resetStatus_mirror, hevaluate, hobligations, hharvest]
    rcases r.evaluate m ctx.resetStatus with ⟨d, ctx⟩
    simp only [mirrored, Harvest.add_mirror]
    rcases t.harvest.add r.obligations d ctx with ⟨h, ctx⟩
    have hstops : d.mirror = winner.opposite.decision ↔ d = winner.decision := by
      rw [← Decision.mirror_decision, Decision.mirror_inj]
    simp only [hstops]
    split
    · exact h.finish_mirror d ctx
    · rw [t.note_mirror winner r d h ctx]
      exact ih _ _

theorem firstApplicableOf_mirror (m : Matching) (rs : List Rule) (ctx : Context) :
    firstApplicableOf m (rs.map (·.mirror)) ctx.mirror = mirrored (firstApplicableOf m rs ctx) := by
  have hnil : Harvest.mirror [] = [] := rfl
  induction rs generalizing ctx with
  | nil => exact Harvest.finish_mirror [] .notApplicable ctx
  | cons r rs ih =>
    have hevaluate := r.evaluate_mirror m ctx.resetStatus
    have hobligations : r.mirror.obligations = r.obligations.map (·.mirror) := rfl
    simp only [List.map_cons, firstApplicableOf, Context.resetStatus_mirror, hevaluate, hobligations]
    rcases r.evaluate m ctx.resetStatus with ⟨d, ctx⟩
    have hadd := Harvest.add_mirror [] r.obligations d ctx
    have hfinish := (Harvest.add [] r.obligations d ctx).1.finish_mirror d
      (Harvest.add [] r.obligations d ctx).2
    cases d with
    | notApplicable => exact ih ctx.clearObligations
    | indeterminate => exact Faults.indeterminate_mirror _ ctx
    | permit =>
      rw [hnil] at hadd
      simp only [mirrored, Decision.mirror] at hadd hfinish ⊢
      rw [hadd]
      exact hfinish
    | deny =>
      rw [hnil] at hadd
      simp only [mirrored, Decision.mirror] at hadd hfinish ⊢
      rw [hadd]
      exact hfinish

theorem fold_mirror (a : RuleAlgorithm) (m : Matching) (rs : List Rule) (ctx : Context) :
    a.mirror.fold m (rs.map (·.mirror)) ctx.mirror = mirrored (a.fold m rs ctx) := by
  cases a with
  | firstApplicable => exact firstApplicableOf_mirror m rs ctx
  | denyOverrides => exact overrides_mirror m .deny rs {} ctx
  | orderedDenyOverrides => exact overrides_mirror m .deny rs {} ctx
  | permitOverrides => exact overrides_mirror m .permit rs {} ctx
  | orderedPermitOverrides => exact overrides_mirror m .permit rs {} ctx

end RuleAlgorithm

/-- Combining the mirror image of some rules, where the other effect overrides, comes to the mirror image of
what combining the rules comes to. Lists that are absent or have empty slots are no exception, and the
status, what was missed and what the attribute finder was asked for are the same. -/
theorem Scene.combineRules_mirror (s : Scene) (a : RuleAlgorithm) (slots : Option (List (Option Rule)))
    (ctx : Context) :
    s.combineRules a.mirror (slots.map (·.map (·.map (·.mirror)))) ctx.mirror =
      mirrored (s.combineRules a slots ctx) := by
  simp only [combineRules, RuleAlgorithm.combine, allPresent?_map]
  cases allPresent? slots with
  | none => simp [Context.illFormed, mirrored, Decision.mirror]
  | some rs => exact a.fold_mirror s.matching rs ctx

example : RuleAlgorithm.mirror .denyOverrides = .permitOverrides := rfl

end Arbiter
