import Arbiter.Proofs.Faults

namespace Arbiter

/-- The exits of a fold. -/
inductive Closed : Decision × Context → Prop
  | finish (h : Harvest) (d : Decision) (ctx : Context) : Closed (h.finish d ctx)
  | faults (f : Faults) (ctx : Context) : Closed (f.indeterminate ctx)
  | illFormed (ctx : Context) : Closed ctx.illFormed
  | ambiguous (ctx : Context) : Closed (PolicyAlgorithm.ambiguous ctx)

theorem reportAll_obligations (cs : List StatusCode) (ctx : Context) :
    (ctx.reportAll cs).obligations = ctx.obligations := by
  induction cs generalizing ctx with
  | nil => rfl
  | cons c cs ih =>
    have hone : (ctx.report c).obligations = ctx.obligations := by
      unfold Context.report
      split <;> rfl
    exact (ih (ctx.report c)).trans hone

/-- No exit leaves obligations if it is Indeterminate, not even those that the fold started with. -/
theorem Closed.unbound {out : Decision × Context} (h : Closed out) (hi : out.1 = .indeterminate) :
    out.2.obligations = [] := by
  cases h with
  | finish h d ctx =>
    cases d with
    | permit | deny => simp [Harvest.finish, Decision.effect?] at hi
    | notApplicable | indeterminate => rfl
  | faults f ctx => exact reportAll_obligations f.codes _
  | illFormed ctx => rfl
  | ambiguous ctx => rfl

namespace RuleAlgorithm

theorem conclude_closed (loser : Effect) (t : RuleTally) (ctx : Context) :
    Closed (t.conclude loser ctx) := by
  unfold RuleTally.conclude
  split
  · exact .faults t.faults ctx
  · split
    · exact .finish t.harvest _ ctx
    · split
      · exact .finish t.harvest _ ctx
      · exact .faults t.faults ctx

theorem overrides_closed (m : Matching) (winner : Effect) (rs : List Rule) (t : RuleTally)
    (ctx : Context) : Closed (overrides m winner rs t ctx) := by
  induction rs generalizing t ctx with
  | nil => exact conclude_closed winner.opposite t ctx
  | cons r rs ih =>
    simp only [overrides]
    split
    · exact .finish _ _ _
    · exact ih _ _

theorem firstApplicableOf_closed (m : Matching) (rs : List Rule) (ctx : Context) :
    Closed (firstApplicableOf m rs ctx) := by
  induction rs generalizing ctx with
  | nil => exact .finish [] .notApplicable ctx
  | cons r rs ih =>
    simp only [firstApplicableOf]
    split
    · exact ih _
    · exact .faults _ _
    · exact .finish _ _ _

theorem combine_closed (a : RuleAlgorithm) (m : Matching) (slots : Option (List (Option Rule)))
    (ctx : Context) : Closed (a.combine m slots ctx) := by
  unfold combine
  split
  · exact .illFormed ctx
  · cases a with
    | firstApplicable => exact firstApplicableOf_closed m _ ctx
    | denyOverrides => exact overrides_closed m .deny _ {} ctx
    | orderedDenyOverrides => exact overrides_closed m .deny _ {} ctx
    | permitOverrides => exact overrides_closed m .permit _ {} ctx
    | orderedPermitOverrides => exact overrides_closed m .permit _ {} ctx

end RuleAlgorithm

namespace PolicyAlgorithm

theorem conclude_closed (winner : Effect) (t : ChildTally) (ctx : Context) :
    Closed (t.conclude winner ctx) := by
  have hfinish (d : Decision) : Closed (t.harvest.finish d ctx) := .finish t.harvest d ctx
  have hfaults : Closed (t.faults.indeterminate ctx) := .faults t.faults ctx
  cases winner with
  | deny =>
    simp only [ChildTally.conclude]
    repeat' split
    all_goals first | exact hfinish _ | exact hfaults
  | permit =>
    simp only [ChildTally.conclude]
    repeat' split
    all_goals first | exact hfinish _ | exact hfaults

theorem overrides_closed (winner : Effect) (ra : Bool) (cs : List Child) (t : ChildTally)
    (ctx : Context) : Closed (overrides winner ra cs t ctx) := by
  induction cs generalizing t ctx with
  | nil => exact conclude_closed winner t ctx
  | cons c cs ih =>
    simp only [overrides]
    split
    · exact ih t ctx
    · split
      · exact .illFormed _
      · split
        · exact .finish _ _ _
        · exact ih _ _

theorem firstApplicableOf_closed (cs : List Child) (ctx : Context) :
    Closed (firstApplicableOf cs ctx) := by
  induction cs generalizing ctx with
  | nil => exact .finish [] .notApplicable ctx
  | cons c cs ih =>
    simp only [firstApplicableOf]
    split
    · exact .illFormed _
    · exact ih _
    · exact .faults _ _
    · exact .finish _ _ _

theorem onlyOneApplicableOf_closed (cs : List Child) (sole : Option Selection) (ctx : Context) :
    Closed (onlyOneApplicableOf cs sole ctx) := by
  induction cs generalizing sole ctx with
  | nil =>
    simp only [onlyOneApplicableOf, concludeSelection]
    split
    · exact .finish _ _ _
    · split
      · exact .faults _ _
      · exact .finish _ _ _
  | cons c cs ih =>
    simp only [onlyOneApplicableOf]
    split
    · exact .illFormed _
    · split
      · split
        · exact ih _ _
        · exact .faults _ _
      · split
        · exact .ambiguous _
        · exact ih _ _

theorem combine_closed (a : PolicyAlgorithm) (ra : Bool) (slots : Option (List (Option Child)))
    (ctx : Context) : Closed (a.combine ra slots ctx) := by
  unfold combine
  split
  · exact .illFormed ctx
  · cases a with
    | firstApplicable => exact firstApplicableOf_closed _ ctx
    | onlyOneApplicable => exact onlyOneApplicableOf_closed _ none ctx
    | denyOverrides => exact overrides_closed .deny ra _ {} ctx
    | orderedDenyOverrides => exact overrides_closed .deny ra _ {} ctx
    | permitOverrides => exact overrides_closed .permit ra _ {} ctx
    | orderedPermitOverrides => exact overrides_closed .permit ra _ {} ctx

end PolicyAlgorithm

/-- How a fold over children of these visits ended that came to this decision. -/
inductive Notes.Ends (n : Notes) (vs : List Visit) : Decision → Prop
  | settled {d} : d ≠ .indeterminate → n.codes = [] → n.missing = [] → Ends n vs d
  | blaming {ws} : ws ⊆ vs → n.Blames ws → Ends n vs .indeterminate
  /-- A child was visited that was cut short. -/
  | cut {v} : v ∈ vs → v.decision = none → n.codes = [.syntaxError] → n.missing = [] →
      Ends n vs .indeterminate
  /-- More children applied than may. -/
  | contested : n.codes = [.processingError] → n.missing = [] → Ends n vs .indeterminate

/-- A code of a fold is that of a child, stands for a fault without a code or for children that do not
agree, or says that a child was cut short. -/
theorem Notes.Ends.mem_codes {n : Notes} {vs : List Visit} {d : Decision} (h : n.Ends vs d)
    {c : StatusCode} (hc : c ∈ n.codes) :
    c = .processingError ∨ (∃ v ∈ vs, c ∈ v.codes) ∨ ∃ v ∈ vs, v.decision = none := by
  cases h with
  | settled _ hcodes => simp [hcodes] at hc
  | blaming hws hb =>
    rw [hb.codes] at hc
    obtain ⟨v, hv, hcv⟩ := List.mem_flatMap.mp hc
    unfold Visit.faultCodes at hcv
    split at hcv
    · exact .inl (List.mem_singleton.mp hcv)
    · exact .inr (.inl ⟨v, hws hv, hcv⟩)
  | cut hv hd => exact .inr (.inr ⟨_, hv, hd⟩)
  | contested hcodes =>
    rw [hcodes] at hc
    exact .inl (List.mem_singleton.mp hc)

theorem closing_settled {d : Decision} (hd : d ≠ .indeterminate) (vs : List Visit) :
    (closing d vs).codes = [] ∧ (closing d vs).missing = [] := by
  simp [closing, hd]

theorem rankedOutcome_settled {rank : List Decision → Decision} {vs : List Visit}
    (h : (rankedOutcome rank vs).1 ≠ .indeterminate) :
    (rankedOutcome rank vs).2.codes = [] ∧ (rankedOutcome rank vs).2.missing = [] := by
  unfold rankedOutcome at h ⊢
  split
  · simp_all
  · exact closing_settled (by simp_all) vs

theorem soleOutcome_settled {sole : Option Visit} {vs : List Visit}
    (h : (soleOutcome sole vs).1 ≠ .indeterminate) :
    (soleOutcome sole vs).2.codes = [] ∧ (soleOutcome sole vs).2.missing = [] := by
  induction vs generalizing sole with
  | nil =>
    cases sole with
    | none => exact ⟨rfl, rfl⟩
    | some v => exact rankedOutcome_settled h
  | cons v vs ih =>
    unfold soleOutcome at h ⊢
    split
    · simp_all
    · split
      · split
        · simp_all
        · exact ih (by simp_all)
      · split
        · exact ih (by simp_all)
        · exact rankedOutcome_settled (by simp_all)

namespace RuleAlgorithm

theorem mem_of_mem_faulty (a : RuleAlgorithm) {decisionOf : Rule → Decision} {rs : List Rule} {r : Rule}
    (h : r ∈ a.faulty decisionOf rs) : r ∈ rs := by
  cases a with
  | firstApplicable => exact List.mem_of_find?_eq_some (Option.mem_toList.mp h)
  | denyOverrides => exact (List.mem_filter.mp h).1
  | orderedDenyOverrides => exact (List.mem_filter.mp h).1
  | permitOverrides => exact (List.mem_filter.mp h).1
  | orderedPermitOverrides => exact (List.mem_filter.mp h).1

/-- Rules are never cut short, so faults of rules are all there can be. -/
theorem outcome_ends (a : RuleAlgorithm) (m : Matching) (rs : List Rule) :
    (a.outcome m (some (rs.map some))).2.Ends (rs.map (·.visit m)) (a.outcome m (some (rs.map some))).1 := by
  by_cases hi : (a.outcome m (some (rs.map some))).1 = .indeterminate
  · rw [hi]
    refine .blaming ?_ (a.outcome_blames m rs hi)
    exact List.map_subset _ fun r hr => a.mem_of_mem_faulty hr
  · obtain ⟨hcodes, hmissing⟩ : (a.outcome m (some (rs.map some))).2.codes = [] ∧
        (a.outcome m (some (rs.map some))).2.missing = [] := by
      simp only [outcome, allPresent?_map_some] at hi ⊢
      exact closing_settled hi _
    exact .settled hi hcodes hmissing

end RuleAlgorithm

namespace PolicyAlgorithm

variable (f : α → Visit)

theorem foldOutcome_settled (a : PolicyAlgorithm) (ra : Bool) {xs : List α}
    (h : (a.foldOutcome f ra xs).1 ≠ .indeterminate) :
    (a.foldOutcome f ra xs).2.codes = [] ∧ (a.foldOutcome f ra xs).2.missing = [] := by
  unfold foldOutcome at h ⊢
  cases hr : a.rank? with
  | some rank =>
    rw [hr] at h
    exact rankedOutcome_settled h
  | none =>
    rw [hr] at h
    exact soleOutcome_settled h

theorem foldOutcome_ends (a : PolicyAlgorithm) (ra : Bool) (xs : List α) :
    (a.foldOutcome f ra xs).2.Ends (xs.map f) (a.foldOutcome f ra xs).1 := by
  by_cases hi : (a.foldOutcome f ra xs).1 = .indeterminate
  · rw [hi]
    by_cases hcut : ∃ x ∈ a.visited f ra xs, (f x).decision = none
    · rw [a.foldOutcome_cut f ra hcut]
      obtain ⟨x, hx, hd⟩ := hcut
      exact .cut (List.mem_map_of_mem ((a.visited_sublist ra xs).subset hx)) hd rfl rfl
    have hv : ∀ x ∈ a.visited f ra xs, (f x).decision ≠ none := fun x hx hd => hcut ⟨x, hx, hd⟩
    by_cases hcon : a.Contested (fun x => (f x).screen) xs
    · obtain ⟨-, hcodes, hmissing⟩ := a.foldOutcome_contested f ra hv hcon
      exact .contested hcodes hmissing
    · refine .blaming ?_ (a.foldOutcome_blames f ra hv hcon hi)
      exact List.map_subset _ fun x hx => a.mem_of_mem_faulty hx
  · obtain ⟨hcodes, hmissing⟩ := a.foldOutcome_settled f ra hi
    exact .settled hi hcodes hmissing

end PolicyAlgorithm

end Arbiter
