import Arbiter.Proofs.Reporting

/-! Precedence among rules.

What a fold over rules decides is a function of the effect of each rule and of what the rule decides
alone. A rule of the overriding effect that is Indeterminate might have decided it, so it outranks the
other effect, while an Indeterminate rule of the other effect ranks below it. -/

namespace Arbiter

namespace RuleAlgorithm

/-- The decision where an effect overrides, given for each rule its effect and what it decides. -/
def precedence (winner : Effect) (vs : List (Effect × Decision)) : Decision :=
  if winner.decision ∈ vs.map (·.2) then winner.decision
  else if (winner, .indeterminate) ∈ vs then .indeterminate
  else if winner.opposite.decision ∈ vs.map (·.2) then winner.opposite.decision
  else if .indeterminate ∈ vs.map (·.2) then .indeterminate
  else .notApplicable

/-- The decision of an algorithm, given for each rule its effect and what it decides. -/
def decisionAmong (a : RuleAlgorithm) (vs : List (Effect × Decision)) : Decision :=
  match a with
  | denyOverrides | orderedDenyOverrides => precedence .deny vs
  | permitOverrides | orderedPermitOverrides => precedence .permit vs
  | firstApplicable => ((vs.map (·.2)).find? (· ≠ .notApplicable)).getD .notApplicable

theorem any_decides_iff (m : Matching) (d : Decision) (rs : List Rule) :
    rs.any (·.decides m d) = true ↔ d ∈ (rs.map fun r => (r.effect, (r.outcome m).1)).map (·.2) := by
  simp [Rule.decides, Visit.decides, Rule.visit]

theorem ranked_eq_precedence (m : Matching) (winner : Effect) (rs : List Rule) :
    ranked m winner rs = precedence winner (rs.map fun r => (r.effect, (r.outcome m).1)) := by
  have hpotential : (rs.any fun r => r.decides m .indeterminate && r.effect = winner) = true ↔
      (winner, .indeterminate) ∈ rs.map fun r => (r.effect, (r.outcome m).1) := by
    simp [Rule.decides, Visit.decides, Rule.visit, and_comm]
  simp only [ranked, precedence, any_decides_iff, hpotential]

theorem decisionOf_eq_decisionAmong (a : RuleAlgorithm) (m : Matching) (rs : List Rule) :
    a.decisionOf m rs = a.decisionAmong (rs.map fun r => (r.effect, (r.outcome m).1)) := by
  cases a with
  | firstApplicable => simp [decisionOf, decisionAmong, Function.comp_def]
  | denyOverrides => exact ranked_eq_precedence m .deny rs
  | orderedDenyOverrides => exact ranked_eq_precedence m .deny rs
  | permitOverrides => exact ranked_eq_precedence m .permit rs
  | orderedPermitOverrides => exact ranked_eq_precedence m .permit rs

/-- Precedence asks what there is among the rules, and not where. -/
theorem precedence_perm (winner : Effect) {vs ws : List (Effect × Decision)} (h : vs.Perm ws) :
    precedence winner vs = precedence winner ws := by
  simp only [precedence, (h.map (·.2)).mem_iff, h.mem_iff]

theorem decisionAmong_perm (a : RuleAlgorithm) (ha : a ≠ .firstApplicable)
    {vs ws : List (Effect × Decision)} (h : vs.Perm ws) : a.decisionAmong vs = a.decisionAmong ws := by
  cases a with
  | firstApplicable => exact absurd rfl ha
  | denyOverrides => exact precedence_perm .deny h
  | orderedDenyOverrides => exact precedence_perm .deny h
  | permitOverrides => exact precedence_perm .permit h
  | orderedPermitOverrides => exact precedence_perm .permit h

end RuleAlgorithm

namespace Scene

/-- The effect of a rule and what the rule decides alone, on a fresh context of the same depth. -/
def verdict (s : Scene) (ctx : Context) (r : Rule) : Effect × Decision :=
  (r.effect, (r.evaluate s.matching ctx.fresh).1)

theorem combineRules_decision (s : Scene) (a : RuleAlgorithm) (rs : List Rule) (ctx : Context) :
    (s.combineRules a (some (rs.map some)) ctx).1 = a.decisionAmong (rs.map (s.verdict ctx)) := by
  have ho : ctx.clearObligations.obligations = [] := rfl
  have hverdict : s.verdict ctx = fun r => (r.effect, (r.outcome s.matching).1) := by
    funext r
    rw [verdict, Rule.evaluate_fresh]
  rw [(s.combineRules_clearObligations a (some (rs.map some)) ctx).1, s.combineRules_eq a _ ho,
    RuleAlgorithm.outcome, allPresent?_map_some, hverdict]
  exact a.decisionOf_eq_decisionAmong s.matching rs

/-- Whatever was evaluated on the context before, a fold over rules decides by their precedence, and an
overriding one decides the same for every order of the rules. -/
theorem rules_decide_by_precedence (s : Scene) (a : RuleAlgorithm) (rs : List Rule) (ctx : Context) :
    (s.combineRules a (some (rs.map some)) ctx).1 = a.decisionAmong (rs.map (s.verdict ctx)) ∧
      ∀ rs', a ≠ .firstApplicable → rs.Perm rs' →
        (s.combineRules a (some (rs'.map some)) ctx).1 =
          (s.combineRules a (some (rs.map some)) ctx).1 := by
  refine ⟨s.combineRules_decision a rs ctx, fun rs' ha hp => ?_⟩
  rw [s.combineRules_decision, s.combineRules_decision]
  exact a.decisionAmong_perm ha (hp.symm.map (s.verdict ctx))

/-- Where deny overrides, a rule that might have denied outranks one that permits, in either order. Where
permit overrides it does not. -/
theorem rules_decide_by_precedence_potential :
    let fails : Condition := { operator := .not }
    let permits : Rule := { id := "p", effect := .permit }
    let mayDeny : Rule := { id := "d", effect := .deny, condition := some fails }
    let s := leadingTo (.policy (.ofId "p"))
    let ctx : Context := { statusCode := .syntaxError, targetMatched := true }
    (s.combineRules .denyOverrides (some [some permits, some mayDeny]) ctx).1 = .indeterminate ∧
      (s.combineRules .denyOverrides (some [some mayDeny, some permits]) ctx).1 = .indeterminate ∧
      (s.combineRules .permitOverrides (some [some mayDeny, some permits]) ctx).1 = .permit := by
  intro fails permits mayDeny s ctx
  obtain ⟨hdeny, hperm⟩ := s.rules_decide_by_precedence .denyOverrides [permits, mayDeny] ctx
  have hd : (s.combineRules .denyOverrides (some [some permits, some mayDeny]) ctx).1 = .indeterminate :=
    hdeny.trans (by decide)
  have hswap := hperm [mayDeny, permits] (by decide) (List.Perm.swap mayDeny permits [])
  have hp := (s.rules_decide_by_precedence .permitOverrides [mayDeny, permits] ctx).1
  exact ⟨hd, hswap.trans hd, hp.trans (by decide)⟩

end Scene

end Arbiter
