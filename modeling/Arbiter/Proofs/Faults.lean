import Arbiter.Proofs.Ranking
import Arbiter.Proofs.Screening

/-! Which faults an Indeterminate evaluation reports.

A fold gathers the codes of the children it blames, and its parent gathers them again, while every child
starts without a status. So the codes compose to one list over all levels, which tells each fault once
for every path of Indeterminate nodes to it, in the order of the tree. -/

namespace Arbiter

/-- Notes of an Indeterminate fold that tell the faults of these children and nothing else. -/
structure Notes.Blames (n : Notes) (vs : List Visit) : Prop where
  any : vs ≠ []
  indeterminate : ∀ v ∈ vs, v.decision = some .indeterminate
  codes : n.codes = vs.flatMap (·.faultCodes)
  missing : n.missing = (vs.flatMap (·.missing)).eraseDups

theorem Notes.Blames.following {n : Notes} {vs : List Visit} (h : n.Blames vs) (ds : List Designator) :
    (n.following ds).Blames vs :=
  ⟨h.any, h.indeterminate, h.codes, h.missing⟩

theorem closing_blames {vs ws : List Visit} (h : vs.filter (·.decides .indeterminate) = ws)
    (hws : ws ≠ []) : (closing .indeterminate vs).Blames ws := by
  subst h
  refine ⟨hws, ?_, rfl, faultsOf_missing vs⟩
  intro v hv
  simpa [Visit.decides] using (List.mem_filter.mp hv).2

/-- A fold that takes the decision of one child for its own. -/
theorem lone_blames {v : Visit} (hv : v.decision ≠ none)
    (hi : (rankedOutcome firstApplying [v]).1 = .indeterminate) :
    (rankedOutcome firstApplying [v]).2.Blames [v] := by
  obtain ⟨d, hd⟩ := Option.ne_none_iff_exists'.mp hv
  by_cases hna : d = .notApplicable
  · subst hna
    simp [rankedOutcome, decisionsOf, firstApplying, hd] at hi
  · rw [PolicyAlgorithm.rankedOutcome_lone hd hna] at hi ⊢
    obtain rfl : d = .indeterminate := hi
    exact closing_blames (by simp [Visit.decides, hd]) (by simp)

/-- The first child that applies is to blame where it settles the decision. -/
theorem upTo_blames (f : α → Visit) {xs : List α}
    (hv : ∀ x ∈ upTo (fun x => !(f x).decides .notApplicable) xs, (f x).decision ≠ none)
    (hi : (rankedOutcome firstApplying
      ((upTo (fun x => !(f x).decides .notApplicable) xs).map f)).1 = .indeterminate) :
    (rankedOutcome firstApplying ((upTo (fun x => !(f x).decides .notApplicable) xs).map f)).2.Blames
      ((xs.find? fun x => (f x).decision ≠ some .notApplicable).toList.map f) := by
  induction xs with
  | nil => simp [upTo, rankedOutcome, decisionsOf, firstApplying] at hi
  | cons x xs ih =>
    cases hx : (f x).decides .notApplicable with
    | false =>
      have hxd : (f x).decision ≠ some .notApplicable := by simpa [Visit.decides] using hx
      simp only [upTo, hx, Bool.not_false, if_true] at hv hi ⊢
      simpa [hxd] using lone_blames (hv x (by simp)) hi
    | true =>
      have hxd : (f x).decision = some .notApplicable := by simpa [Visit.decides] using hx
      simp only [upTo, hx, Bool.not_true, Bool.false_eq_true, if_false, List.map_cons,
        PolicyAlgorithm.rankedOutcome_cons hxd] at hv hi ⊢
      simpa [hxd] using
        (ih (fun y hy => hv y (List.mem_cons_of_mem x hy)) hi).following (f x).lookups

namespace RuleAlgorithm

/-- The rules an Indeterminate fold is to blame on, from what rules decide. -/
def faulty (a : RuleAlgorithm) (decisionOf : Rule → Decision) (rs : List Rule) : List Rule :=
  match a with
  | denyOverrides | orderedDenyOverrides | permitOverrides | orderedPermitOverrides =>
    rs.filter fun r => decisionOf r = .indeterminate
  | firstApplicable => (rs.find? fun r => decisionOf r ≠ .notApplicable).toList

theorem ranked_indeterminate {m : Matching} {winner : Effect} {rs : List Rule}
    (h : ranked m winner rs = .indeterminate) :
    rs.any (·.decides m winner.decision) = false ∧ rs.any (·.decides m .indeterminate) := by
  unfold ranked at h
  split at h
  · cases winner <;> simp [Effect.decision] at h
  · rename_i hw
    refine ⟨by simpa using hw, ?_⟩
    split at h
    · rename_i hpotential
      obtain ⟨r, hr, hd⟩ := List.any_eq_true.mp hpotential
      exact List.any_eq_true.mpr ⟨r, hr, (Bool.and_eq_true_iff.mp hd).1⟩
    · split at h
      · cases winner <;> simp [Effect.opposite, Effect.decision] at h
      · split at h
        · assumption
        · simp at h

theorem overriding_blames (m : Matching) (winner : Effect) (rs : List Rule)
    (hi : ranked m winner rs = .indeterminate) :
    (closing (ranked m winner rs) ((upTo (·.decides m winner.decision) rs).map (·.visit m))).Blames
      ((rs.filter fun r => (r.outcome m).1 = .indeterminate).map (·.visit m)) := by
  obtain ⟨hw, hany⟩ := ranked_indeterminate hi
  have hall : upTo (·.decides m winner.decision) rs = rs := upTo_of_none (by simpa using hw)
  rw [hi, hall]
  apply closing_blames
  · simp [List.filter_map, Function.comp_def, Visit.decides, Rule.visit]
  · obtain ⟨r, hr, hd⟩ := List.any_eq_true.mp hany
    have hri : (r.outcome m).1 = .indeterminate := by
      simpa [Rule.decides, Visit.decides, Rule.visit] using hd
    exact List.ne_nil_of_mem (List.mem_map_of_mem (List.mem_filter.mpr ⟨hr, by simpa using hri⟩))

/-- The first rule that applies settles the decision as the first child that applies does. -/
theorem firstApplicable_eq (m : Matching) (rs : List Rule) :
    (decisionOf .firstApplicable m rs,
        closing (decisionOf .firstApplicable m rs) ((visited .firstApplicable m rs).map (·.visit m))) =
      rankedOutcome firstApplying
        ((upTo (fun r => !(r.visit m).decides .notApplicable) rs).map (·.visit m)) := by
  have hdec : firstApplying (decisionsOf (rs.map (·.visit m))) = decisionOf .firstApplicable m rs := by
    have hall : decisionsOf (rs.map (·.visit m)) = rs.map fun r => (r.outcome m).1 := by
      rw [decisionsOf, List.filterMap_map]
      exact congrFun List.filterMap_eq_map rs
    rw [hall]
    rfl
  rw [rankedOutcome_of_decided firstApplying (by simp [Rule.visit]),
    PolicyAlgorithm.firstApplying_upTo (Rule.visit m) (by simp [Rule.visit]), hdec]
  rfl

theorem outcome_blames (a : RuleAlgorithm) (m : Matching) (rs : List Rule)
    (hi : (a.outcome m (some (rs.map some))).1 = .indeterminate) :
    (a.outcome m (some (rs.map some))).2.Blames
      ((a.faulty (fun r => (r.outcome m).1) rs).map (·.visit m)) := by
  simp only [outcome, allPresent?_map_some] at hi ⊢
  cases a with
  | denyOverrides => exact overriding_blames m .deny rs hi
  | orderedDenyOverrides => exact overriding_blames m .deny rs hi
  | permitOverrides => exact overriding_blames m .permit rs hi
  | orderedPermitOverrides => exact overriding_blames m .permit rs hi
  | firstApplicable =>
    have hfind : (rs.find? fun r => (r.visit m).decision ≠ some .notApplicable) =
        rs.find? fun r => (r.outcome m).1 ≠ .notApplicable := by simp [Rule.visit]
    have hblames := @upTo_blames _ (Rule.visit m) rs (by simp [Rule.visit])
    rw [← firstApplicable_eq, hfind] at hblames
    exact hblames hi

end RuleAlgorithm

namespace PolicyAlgorithm

/-- The children an Indeterminate fold is to blame on, from what they decide and how their targets turn
out. -/
def faulty (a : PolicyAlgorithm) (decisionOf : α → Option Decision) (screen : α → MatchResult)
    (xs : List α) : List α :=
  match a.strategy with
  | .overriding _ => xs.filter fun x => decisionOf x = some .indeterminate
  | .firstApplicable => (xs.find? fun x => decisionOf x ≠ some .notApplicable).toList
  | .onlyOneApplicable =>
    match xs.find? fun x => screen x = .indeterminate with
    | some x => [x]
    | none => xs.filter fun x => screen x = .matched

theorem mem_of_mem_faulty (a : PolicyAlgorithm) {decisionOf : α → Option Decision}
    {screen : α → MatchResult} {xs : List α} {x : α} (h : x ∈ a.faulty decisionOf screen xs) :
    x ∈ xs := by
  unfold faulty at h
  cases hs : a.strategy with
  | overriding winner =>
    rw [hs] at h
    exact (List.mem_filter.mp h).1
  | firstApplicable =>
    rw [hs] at h
    exact List.mem_of_find?_eq_some (Option.mem_toList.mp h)
  | onlyOneApplicable =>
    simp only [hs] at h
    split at h
    · rename_i y hy
      rw [List.mem_singleton.mp h]
      exact List.mem_of_find?_eq_some hy
    · exact (List.mem_filter.mp h).1

/-- The children that apply before one of which nobody can tell. -/
def contenders (screen : α → MatchResult) (xs : List α) : List α :=
  (xs.takeWhile fun x => screen x ≠ .indeterminate).filter fun x => screen x = .matched

/-- Just one child may apply, and more than one do. -/
def Contested (a : PolicyAlgorithm) (screen : α → MatchResult) (xs : List α) : Prop :=
  match a.strategy with
  | .onlyOneApplicable => 1 < (contenders screen xs).length
  | .overriding _ | .firstApplicable => False

theorem contenders_of_matched (screen : α → MatchResult) {x : α} (h : screen x = .matched)
    (xs : List α) :
    contenders screen (x :: xs) = x :: contenders screen xs := by
  simp [contenders, h]

theorem contenders_of_unmatched (screen : α → MatchResult) {x : α} (h : screen x = .unmatched)
    (xs : List α) : contenders screen (x :: xs) = contenders screen xs := by
  simp [contenders, h]

variable (f : α → Visit)

theorem soleOutcome_blames (sole : Option α) {xs : List α}
    (hs : ∀ x ∈ sole, (f x).decision ≠ none)
    (hv : ∀ x ∈ searched f sole.isSome xs, (f x).decision ≠ none)
    (hc : sole.toList.length + (contenders (fun x => (f x).screen) xs).length ≤ 1)
    (hi : (soleOutcome (sole.map f) (xs.map f)).1 = .indeterminate) :
    (soleOutcome (sole.map f) (xs.map f)).2.Blames
      ((match xs.find? fun x => (f x).screen = MatchResult.indeterminate with
        | some x => [x]
        | none => sole.toList ++ xs.filter fun x => (f x).screen = MatchResult.matched).map f) := by
  induction xs generalizing sole with
  | nil =>
    cases sole with
    | none => simp [soleOutcome] at hi
    | some x => exact lone_blames (hs x rfl) hi
  | cons x xs ih =>
    have hx : (f x).decision ≠ none := hv x (head_mem_searched sole.isSome x xs)
    rw [searched_cons _ hx] at hv
    rw [List.map_cons, soleOutcome_cons _ hx] at hi ⊢
    cases hscreen : (f x).screen with
    | matched =>
      have hcons := contenders_of_matched (fun y => (f y).screen) hscreen xs
      rw [hcons, List.length_cons] at hc
      cases sole with
      | some y =>
        have hone : (some y).toList.length = 1 := rfl
        omega
      | none =>
        simp only [hscreen, Option.map_none, Option.isSome_none] at hv hi ⊢
        have hzero : (none : Option α).toList.length = 0 := rfl
        have h := ih (some x) (by simpa using hx) (fun y hy => hv y (List.mem_cons_of_mem x hy))
          (show 1 + _ ≤ 1 by omega) hi
        simpa [hscreen] using h
    | unmatched =>
      have hcons := contenders_of_unmatched (fun y => (f y).screen) hscreen xs
      rw [hcons] at hc
      simp only [hscreen] at hv hi ⊢
      have h := ih sole hs (fun y hy => hv y (List.mem_cons_of_mem x hy)) hc hi
      simpa [hscreen] using h
    | indeterminate =>
      simp only [hscreen] at hi ⊢
      simpa [hscreen] using lone_blames hx hi

/-- A second child that applies ends the search at once. -/
theorem soleOutcome_contested (sole : Option α) {xs : List α}
    (hv : ∀ x ∈ searched f sole.isSome xs, (f x).decision ≠ none)
    (hc : 1 < sole.toList.length + (contenders (fun x => (f x).screen) xs).length) :
    soleOutcome (sole.map f) (xs.map f) = (.indeterminate, { codes := [.processingError] }) := by
  induction xs generalizing sole with
  | nil => cases sole <;> simp [contenders] at hc
  | cons x xs ih =>
    have hx : (f x).decision ≠ none := hv x (head_mem_searched sole.isSome x xs)
    rw [searched_cons _ hx] at hv
    rw [List.map_cons, soleOutcome_cons _ hx]
    cases hscreen : (f x).screen with
    | matched =>
      have hcons := contenders_of_matched (fun y => (f y).screen) hscreen xs
      rw [hcons, List.length_cons] at hc
      cases sole with
      | some y => rfl
      | none =>
        have hzero : (none : Option α).toList.length = 0 := rfl
        simp only [hscreen] at hv
        exact ih (some x) (fun y hy => hv y (List.mem_cons_of_mem x hy)) (show 1 < 1 + _ by omega)
    | unmatched =>
      have hcons := contenders_of_unmatched (fun y => (f y).screen) hscreen xs
      rw [hcons] at hc
      simp only [hscreen] at hv
      exact ih sole (fun y hy => hv y (List.mem_cons_of_mem x hy)) hc
    | indeterminate => cases sole <;> simp [contenders, hscreen] at hc

/-- So does a child that is cut short. -/
theorem soleOutcome_cut (sole : Option Visit) {xs : List α}
    (hv : ∃ x ∈ searched f sole.isSome xs, (f x).decision = none) :
    soleOutcome sole (xs.map f) = (.indeterminate, illFormedNotes []) := by
  induction xs generalizing sole with
  | nil => simp [searched] at hv
  | cons x xs ih =>
    by_cases hx : (f x).decision = none
    · simp [soleOutcome, hx]
    · rw [searched_cons _ hx] at hv
      rw [List.map_cons, soleOutcome_cons _ hx]
      cases hscreen : (f x).screen with
      | matched =>
        cases sole with
        | some v => simp [hscreen, hx] at hv
        | none => exact ih (some (f x)) (by simpa [hscreen, hx] using hv)
      | unmatched => exact ih sole (by simpa [hscreen, hx] using hv)
      | indeterminate => simp [hscreen, hx] at hv

theorem foldOutcome_blames (a : PolicyAlgorithm) (ra : Bool) {xs : List α}
    (hv : ∀ x ∈ a.visited f ra xs, (f x).decision ≠ none)
    (hc : ¬ a.Contested (fun x => (f x).screen) xs)
    (hi : (a.foldOutcome f ra xs).1 = .indeterminate) :
    (a.foldOutcome f ra xs).2.Blames
      ((a.faulty (fun x => (f x).decision) (fun x => (f x).screen) xs).map f) := by
  unfold foldOutcome visited rank? at *
  unfold faulty Contested at *
  cases hs : a.strategy with
  | overriding winner =>
    simp only [hs] at *
    have hall : ((reached f winner ra false xs).map f).any (·.decision.isNone) = false := by
      simpa using hv
    rw [rankedOutcome_of_decided _ hall] at hi ⊢
    have hvis := reached_of_fault f winner ra hv hi
    rw [hvis] at hi ⊢
    obtain ⟨x, hx, hd⟩ := (mem_decisionsOf f).mp (mem_of_foremost hi (by decide))
    have hi : foremost (rankOrder winner) (decisionsOf (xs.map f)) = .indeterminate := hi
    rw [hi]
    apply closing_blames
    · simp [List.filter_map, Function.comp_def, Visit.decides]
    · exact List.ne_nil_of_mem (List.mem_map_of_mem (List.mem_filter.mpr ⟨hx, by simpa using hd⟩))
  | firstApplicable =>
    simp only [hs] at *
    exact upTo_blames f hv hi
  | onlyOneApplicable =>
    simp only [hs] at *
    have h := soleOutcome_blames f none (by simp) hv (show 0 + _ ≤ 1 by omega) hi
    exact ⟨h.any, h.indeterminate, h.codes, h.missing⟩

/-- A contested fold tells no fault of its children. -/
theorem foldOutcome_contested (a : PolicyAlgorithm) (ra : Bool) {xs : List α}
    (hv : ∀ x ∈ a.visited f ra xs, (f x).decision ≠ none)
    (hc : a.Contested (fun x => (f x).screen) xs) :
    (a.foldOutcome f ra xs).1 = .indeterminate ∧
      (a.foldOutcome f ra xs).2.codes = [.processingError] ∧ (a.foldOutcome f ra xs).2.missing = [] := by
  unfold foldOutcome visited rank? at *
  unfold Contested at hc
  cases hs : a.strategy with
  | overriding winner => simp [hs] at hc
  | firstApplicable => simp [hs] at hc
  | onlyOneApplicable =>
    simp only [hs] at *
    have h := soleOutcome_contested f none hv (show 1 < 0 + _ by omega)
    rw [show soleOutcome none (xs.map f) = _ from h]
    exact ⟨rfl, rfl, rfl⟩

/-- A fold that is cut short tells none either, and leaves nothing else. -/
theorem foldOutcome_cut (a : PolicyAlgorithm) (ra : Bool) {xs : List α}
    (hv : ∃ x ∈ a.visited f ra xs, (f x).decision = none) :
    a.foldOutcome f ra xs = (.indeterminate, illFormedNotes ((a.visited f ra xs).map f)) := by
  have hany : ((a.visited f ra xs).map f).any (·.decision.isNone) := by simpa using hv
  unfold foldOutcome
  cases hr : a.rank? with
  | some rank => simp only [rankedOutcome, hany, if_true]
  | none =>
    obtain rfl := eq_onlyOneApplicable_of_rank? hr
    rw [soleOutcome_cut f none hv]
    rfl

end PolicyAlgorithm

end Arbiter
