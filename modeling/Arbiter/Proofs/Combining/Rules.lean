import Arbiter.Proofs.Visit

namespace Arbiter

namespace Rule

/-- What a rule decides alone, and what it notes. -/
def outcome (m : Matching) (r : Rule) : Decision × Notes :=
  match m.targetOutcome r.target with
  | (.unmatched, n) => (.notApplicable, n)
  | (.indeterminate, n) => (.indeterminate, n)
  | (.matched, n) =>
    match m.conditionOutcome r.condition with
    | (.unmatched, k) => (.notApplicable, k.following n.lookups)
    | (.indeterminate, k) => (.indeterminate, k.following n.lookups)
    | (.matched, k) => (r.effect.decision, k.following n.lookups)

def visit (m : Matching) (r : Rule) : Visit where
  toNotes := (r.outcome m).2
  decision := some (r.outcome m).1
  declared := r.obligations
  carries := r.carriesObligations
  applicable := (m.targetOutcome r.target).1 = .matched

def decides (m : Matching) (d : Decision) (r : Rule) : Bool := (r.visit m).decides d

end Rule

namespace Matching

theorem matchTarget_after (m : Matching) (c : Option Condition) (ctx : Context) :
    m.matchTarget c (ctx.after {}) = ((m.targetOutcome c).1, ctx.after (m.targetOutcome c).2) := by
  cases c with
  | none => rfl
  | some c => exact m.target.run_after m.source c ctx

theorem matchCondition_after (m : Matching) (c : Option Condition) (ctx : Context) :
    m.matchCondition c (ctx.after {}) =
      ((m.conditionOutcome c).1, ctx.after (m.conditionOutcome c).2) := by
  cases c with
  | none => rfl
  | some c => exact m.condition.run_after m.source c ctx

theorem targetOutcome_quiet (m : Matching) (c : Option Condition)
    (h : (m.targetOutcome c).1 ≠ .indeterminate) :
    (m.targetOutcome c).2 = { lookups := (m.targetOutcome c).2.lookups } := by
  cases c with
  | none => rfl
  | some c => exact m.target.outcome_quiet m.source c h

theorem targetOutcome_obligations (m : Matching) (c : Option Condition) :
    (m.targetOutcome c).2.obligations = [] := by
  cases c with
  | none => rfl
  | some c => exact m.target.outcome_obligations m.source c

theorem conditionOutcome_obligations (m : Matching) (c : Option Condition) :
    (m.conditionOutcome c).2.obligations = [] := by
  cases c with
  | none => rfl
  | some c => exact m.condition.outcome_obligations m.source c

theorem targetOutcome_codes (m : Matching) (c : Option Condition) :
    .ok ∉ (m.targetOutcome c).2.codes := by
  cases c with
  | none => simp [targetOutcome]
  | some c => exact m.target.outcome_codes m.source c

theorem conditionOutcome_codes (m : Matching) (c : Option Condition) :
    .ok ∉ (m.conditionOutcome c).2.codes := by
  cases c with
  | none => simp [conditionOutcome]
  | some c => exact m.condition.outcome_codes m.source c

end Matching

namespace Rule

/-- A rule evaluated on a context that holds nothing yet comes to what it comes to alone. -/
theorem evaluate_after (m : Matching) (r : Rule) (ctx : Context) :
    r.evaluate m (ctx.after {}) = ((r.outcome m).1, ctx.after (r.outcome m).2) := by
  have hq := m.targetOutcome_quiet r.target
  simp only [evaluate, outcome, m.matchTarget_after]
  rcases ht : m.targetOutcome r.target with ⟨t, n⟩
  rw [ht] at hq
  cases t with
  | unmatched => rfl
  | indeterminate => rfl
  | matched =>
    obtain ⟨ds, rfl⟩ : ∃ ds, n = { lookups := ds } := ⟨n.lookups, hq (by simp)⟩
    have hc := m.matchCondition_after r.condition (ctx.after { lookups := ds })
    rw [← ctx.after_lookups ds, Context.after_after] at hc
    simp only [hc]
    rcases m.conditionOutcome r.condition with ⟨c, k⟩
    cases c <;> rfl

theorem evaluate_fresh (m : Matching) (r : Rule) (ctx : Context) :
    r.evaluate m ctx.fresh = ((r.outcome m).1, ctx.fresh.after (r.outcome m).2) :=
  r.evaluate_after m ctx.fresh

theorem outcome_obligations (m : Matching) (r : Rule) : (r.outcome m).2.obligations = [] := by
  have ht := m.targetOutcome_obligations r.target
  have hc := m.conditionOutcome_obligations r.condition
  unfold outcome
  split
  · simp_all
  · simp_all
  · split <;> simp_all [Notes.following]

theorem outcome_codes (m : Matching) (r : Rule) : .ok ∉ (r.outcome m).2.codes := by
  have ht := m.targetOutcome_codes r.target
  have hc := m.conditionOutcome_codes r.condition
  unfold outcome
  split
  · simp_all
  · simp_all
  · split <;> simp_all [Notes.following]

theorem outcome_fits (m : Matching) (r : Rule) : (r.outcome m).2.Fits (r.outcome m).1 :=
  ⟨fun o ho => by simp [r.outcome_obligations m] at ho, r.outcome_codes m⟩

theorem visit_sound (m : Matching) (r : Rule) : (r.visit m).Sound := by
  refine ⟨?_, ?_, fun h => by simp [visit] at h⟩
  · intro d hd
    obtain rfl : (r.outcome m).1 = d := by simpa [visit] using hd
    exact r.outcome_fits m
  · intro e he
    have hd : (r.outcome m).1 = e.decision := by simpa [visit] using he
    unfold outcome at hd
    split at hd
    · cases e <;> simp [Effect.decision] at hd
    · cases e <;> simp [Effect.decision] at hd
    · rename_i h
      simp [visit, h]

end Rule

namespace RuleTally

/-- What an overriding fold keeps once it has visited these rules. -/
def ofRules (m : Matching) (winner : Effect) (rs : List Rule) : RuleTally where
  harvest := (rs.map (·.visit m)).flatMap (·.harvest)
  faults := faultsOf (rs.map (·.visit m))
  overridden := rs.any (·.decides m winner.opposite.decision)
  potential := rs.any fun r => r.decides m .indeterminate && r.effect = winner

theorem note_ofRules (m : Matching) (winner : Effect) (rs : List Rule) (r : Rule) {ctx : Context}
    (hd : (r.outcome m).1 ≠ winner.decision) (hc : ctx.statusCodes = (r.visit m).codes)
    (hm : ctx.missing = (r.visit m).missing) :
    (ofRules m winner rs).note winner r (r.outcome m).1
      ((ofRules m winner rs).harvest ++ (r.visit m).harvest) ctx = ofRules m winner (rs ++ [r]) := by
  have hf := faultsOf_append_of_not (r.visit m) (rs.map (·.visit m))
  have hr := @faultsOf_record (rs.map (·.visit m)) ctx (r.visit m)
  cases h : (r.outcome m).1 <;> cases winner <;>
    simp_all [note, ofRules, Rule.decides, Visit.decides, Rule.visit, Effect.opposite,
      Effect.decision]

end RuleTally

namespace RuleAlgorithm

/-- How an overriding fold ranks what rules decide: the overriding effect comes first, then a fault of
a rule that might have decided it, then the overridden effect, and other faults come last. -/
def ranked (m : Matching) (winner : Effect) (rs : List Rule) : Decision :=
  if rs.any (·.decides m winner.decision) then winner.decision
  else if rs.any fun r => r.decides m .indeterminate && r.effect = winner then .indeterminate
  else if rs.any (·.decides m winner.opposite.decision) then winner.opposite.decision
  else if rs.any (·.decides m .indeterminate) then .indeterminate
  else .notApplicable

/-- The decision of a fold, from what the rules decide alone. -/
def decisionOf (a : RuleAlgorithm) (m : Matching) (rs : List Rule) : Decision :=
  match a with
  | denyOverrides | orderedDenyOverrides => ranked m .deny rs
  | permitOverrides | orderedPermitOverrides => ranked m .permit rs
  | firstApplicable => ((rs.map fun r => (r.outcome m).1).find? (· ≠ .notApplicable)).getD .notApplicable

/-- The rules a fold visits: none after the one that settles the decision. -/
def visited (a : RuleAlgorithm) (m : Matching) (rs : List Rule) : List Rule :=
  match a with
  | denyOverrides | orderedDenyOverrides => upTo (·.decides m .deny) rs
  | permitOverrides | orderedPermitOverrides => upTo (·.decides m .permit) rs
  | firstApplicable => upTo (!·.decides m .notApplicable) rs

theorem visited_sublist (a : RuleAlgorithm) (m : Matching) (rs : List Rule) :
    (a.visited m rs).Sublist rs := by
  cases a <;> exact upTo_sublist _ rs

theorem visits_sound (m : Matching) (rs : List Rule) : ∀ v ∈ rs.map (·.visit m), v.Sound := by
  intro v hv
  obtain ⟨r, -, rfl⟩ := List.mem_map.mp hv
  exact r.visit_sound m

theorem conclude_ofRules (m : Matching) (winner : Effect) (rs : List Rule) (ctx : Context)
    (hw : rs.any (·.decides m winner.decision) = false) :
    (RuleTally.ofRules m winner rs).conclude winner.opposite ctx =
      (ranked m winner rs,
        ctx.after { closing (ranked m winner rs) (rs.map (·.visit m)) with lookups := [] }) := by
  have hs := visits_sound m rs
  have he : (faultsOf (rs.map (·.visit m))).isEmpty = !rs.any (·.decides m .indeterminate) := by
    rw [faultsOf_isEmpty, List.any_map]
    rfl
  have hl : winner.opposite.decision ≠ .indeterminate := by cases winner <;> decide
  simp only [RuleTally.conclude, RuleTally.ofRules, ranked, hw, he, indeterminate_eq_closing hs,
    finish_eq_closing hs hl, finish_eq_closing hs (show Decision.notApplicable ≠ .indeterminate by decide)]
  cases rs.any fun r => r.decides m .indeterminate && r.effect = winner with
  | true => rfl
  | false =>
    cases rs.any (·.decides m winner.opposite.decision) with
    | true => rfl
    | false => cases rs.any (·.decides m .indeterminate) <;> rfl

/-- A fold that goes on from rules already visited. The lookups it makes are those of the rest. -/
theorem overrides_eq (m : Matching) (winner : Effect) (seen rs : List Rule) (ctx : Context)
    (ho : ctx.obligations = []) (hw : seen.any (·.decides m winner.decision) = false) :
    overrides m winner rs (RuleTally.ofRules m winner seen) ctx =
      (ranked m winner (seen ++ rs),
        ctx.after
          { closing (ranked m winner (seen ++ rs))
              ((seen ++ upTo (·.decides m winner.decision) rs).map (·.visit m)) with
            lookups := lookupsOf ((upTo (·.decides m winner.decision) rs).map (·.visit m)) }) := by
  induction rs generalizing seen ctx with
  | nil =>
    rw [overrides, conclude_ofRules m winner seen ctx hw]
    simp [upTo, lookupsOf]
  | cons r rs ih =>
    have ha : (RuleTally.ofRules m winner seen).harvest.add r.obligations (r.outcome m).1
        (ctx.after (r.outcome m).2) =
          ((RuleTally.ofRules m winner seen).harvest ++ (r.visit m).harvest,
            ctx.after { (r.visit m).toNotes with obligations := [] }) :=
      Harvest.add_after _ ctx (show (r.visit m).decision = some (r.outcome m).1 from rfl)
    have hd : r.decides m winner.decision = decide ((r.outcome m).1 = winner.decision) := by
      simp [Rule.decides, Visit.decides, Rule.visit]
    simp only [overrides, Context.resetStatus_eq_after ho, Rule.evaluate_after, ha]
    by_cases h : (r.outcome m).1 = winner.decision
    · -- The rule decides the overriding effect, and what it brings comes last.
      have hr : ranked m winner (seen ++ r :: rs) = winner.decision := by simp [ranked, hd, h]
      have hi : winner.decision ≠ .indeterminate := by cases winner <;> decide
      have hh : (RuleTally.ofRules m winner seen).harvest ++ (r.visit m).harvest =
          ((seen ++ [r]).map (·.visit m)).flatMap (·.harvest) := by
        simp [RuleTally.ofRules]
      rw [if_pos h, upTo_of_pos (by simp [hd, h]), h, hr, hh,
        finish_eq_closing (visits_sound m (seen ++ [r])) hi]
      simp [Notes.following, lookupsOf]
    · have hw' : (seen ++ [r]).any (·.decides m winner.decision) = false := by simp [hw, hd, h]
      rw [if_neg h, upTo_of_neg (by simp [hd, h]), RuleTally.note_ofRules m winner seen r h rfl rfl,
        ih (seen ++ [r]) _ rfl hw']
      simp [Notes.following, lookupsOf]

theorem firstApplicableOf_eq (m : Matching) (rs : List Rule) (ctx : Context)
    (ho : ctx.obligations = []) :
    firstApplicableOf m rs ctx =
      (decisionOf .firstApplicable m rs,
        ctx.after (closing (decisionOf .firstApplicable m rs)
          ((visited .firstApplicable m rs).map (·.visit m)))) := by
  induction rs generalizing ctx with
  | nil =>
    have hs : ∀ v ∈ ([] : List Visit), v.Sound := by simp
    exact finish_eq_closing hs (show Decision.notApplicable ≠ .indeterminate by decide) ctx
  | cons r rs ih =>
    have hv : (r.visit m).decision = some (r.outcome m).1 := rfl
    have hn : r.decides m .notApplicable = decide ((r.outcome m).1 = .notApplicable) := by
      simp [Rule.decides, Visit.decides, Rule.visit]
    have hlone (hd : (r.outcome m).1 ≠ .notApplicable) :
        decisionOf .firstApplicable m (r :: rs) = (r.outcome m).1 ∧
          visited .firstApplicable m (r :: rs) = [r] := by
      simp [decisionOf, visited, upTo, hn, hd]
    simp only [firstApplicableOf, Context.resetStatus_eq_after ho, Rule.evaluate_after]
    cases hd : (r.outcome m).1 with
    | notApplicable =>
      have hc := closing_cons (hv.trans (congrArg some hd))
        (decisionOf .firstApplicable m rs) ((visited .firstApplicable m rs).map (·.visit m))
      have hr : decisionOf .firstApplicable m (r :: rs) = decisionOf .firstApplicable m rs := by
        simp [decisionOf, hd]
      have hl : visited .firstApplicable m (r :: rs) = r :: visited .firstApplicable m rs := by
        simp [visited, upTo, hn, hd]
      rw [Context.clearObligations_after, ih _ rfl, hr, hl, List.map_cons, hc, Context.after_after]
      rfl
    | indeterminate =>
      obtain ⟨hr, hl⟩ := hlone (by simp [hd])
      rw [hr, hl, hd]
      exact lone_fault (r.visit_sound m) (hv.trans (congrArg some hd)) ctx
    | permit =>
      obtain ⟨hr, hl⟩ := hlone (by simp [hd])
      rw [hr, hl, hd]
      exact lone_finish (r.visit_sound m) (hv.trans (congrArg some hd)) (by decide) ctx
    | deny =>
      obtain ⟨hr, hl⟩ := hlone (by simp [hd])
      rw [hr, hl, hd]
      exact lone_finish (r.visit_sound m) (hv.trans (congrArg some hd)) (by decide) ctx

/-- A fold over rules comes to the same on every context without obligations. -/
theorem fold_eq (a : RuleAlgorithm) (m : Matching) (rs : List Rule) (ctx : Context)
    (ho : ctx.obligations = []) :
    a.fold m rs ctx =
      (a.decisionOf m rs,
        ctx.after (closing (a.decisionOf m rs) ((a.visited m rs).map (·.visit m)))) := by
  cases a with
  | firstApplicable => exact firstApplicableOf_eq m rs ctx ho
  | denyOverrides => exact overrides_eq m .deny [] rs ctx ho rfl
  | orderedDenyOverrides => exact overrides_eq m .deny [] rs ctx ho rfl
  | permitOverrides => exact overrides_eq m .permit [] rs ctx ho rfl
  | orderedPermitOverrides => exact overrides_eq m .permit [] rs ctx ho rfl

/-- What combining a list of rules comes to, as a policy holds it. -/
def outcome (a : RuleAlgorithm) (m : Matching) (slots : Option (List (Option Rule))) : Decision × Notes :=
  match allPresent? slots with
  | none => (.indeterminate, { codes := [.syntaxError] })
  | some rs => (a.decisionOf m rs, closing (a.decisionOf m rs) ((a.visited m rs).map (·.visit m)))

theorem combine_eq (a : RuleAlgorithm) (m : Matching) (slots : Option (List (Option Rule)))
    (ctx : Context) (ho : ctx.obligations = []) :
    a.combine m slots ctx = ((a.outcome m slots).1, ctx.after (a.outcome m slots).2) := by
  unfold combine outcome
  cases allPresent? slots with
  | none => exact illFormed_eq ctx
  | some rs => exact a.fold_eq m rs ctx ho

theorem outcome_fits (a : RuleAlgorithm) (m : Matching) (slots : Option (List (Option Rule))) :
    (a.outcome m slots).2.Fits (a.outcome m slots).1 := by
  unfold outcome
  cases allPresent? slots with
  | none => exact fault_fits (by decide) []
  | some rs => exact closing_fits (visits_sound m _) _

end RuleAlgorithm

end Arbiter
