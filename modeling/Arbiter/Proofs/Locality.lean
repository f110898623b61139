import Arbiter.Proofs.Congruence
import Arbiter.Proofs.Validity

/-! Locality: a node comes to the same in two scenes that agree on the conditions of what may be reached
from it, and on where the references there lead.

How a value was come by may differ: one request holds it, and for another the attribute finder is asked.
So the lookups are left out of the comparison. -/

namespace Arbiter

namespace Finder

/-- A finder that goes by the designator, whatever the request. -/
def Static (f : Finder) : Prop := ∀ d r r', f d r = f d r'

theorem ofValues_static (table : List (Designator × Json)) : (ofValues table).Static :=
  fun _ _ _ => rfl

end Finder

namespace Source

variable {f f' : Option Finder} {r r' : Request} {d : Designator}

/-- Of a bag that the request fills, no finder is asked. -/
theorem bag_of_supplied (h : r.bag d ≠ []) : bag ⟨r, f⟩ d = bag ⟨r, f'⟩ d := by
  have hfilled : (r.bag d).isEmpty = false := by simpa using h
  simp only [bag, values, hfilled, Bool.false_eq_true, if_false]

theorem bag_of_static (hf : ∀ g ∈ f, g.Static) (h : r.bag d = r'.bag d) :
    bag ⟨r, f⟩ d = bag ⟨r', f⟩ d := by
  have hfind : find ⟨r, f⟩ d = find ⟨r', f⟩ d := by
    cases f with
    | none => rfl
    | some g => simp only [find, hf g rfl d r r']
  simp only [bag, values, h, hfind]

end Source

/-- Attributes that a designator does not select have no part in its bag. -/
theorem Request.bag_of_kept {keep : Attribute → Bool} {d : Designator}
    (hk : ∀ a : Attribute, a.isSelectedBy d → keep a) {r r' : Request}
    (h : r.attributes.filter keep = r'.attributes.filter keep) : r.bag d = r'.bag d := by
  have hkept (as : List Attribute) : bagOf d (as.filter keep) = bagOf d as := by
    rw [bagOf, List.filter_filter, bagOf]
    congr 2
    funext a
    cases ha : a.isSelectedBy d with
    | false => rfl
    | true => rw [hk a ha, Bool.and_self]
  rw [bag, bag, ← hkept r.attributes, h, hkept]

/-- The notes without the lookups that were made for them. -/
def Notes.untraced (n : Notes) : Notes := { n with lookups := [] }

/-- The same for what an evaluation came to. -/
def untraced (o : β × Notes) : β × Notes := (o.1, o.2.untraced)

namespace Visit

def untraced (v : Visit) : Visit := { v with toNotes := v.toNotes.untraced }

@[simp] theorem decision_untraced (v : Visit) : v.untraced.decision = v.decision := rfl

@[simp] theorem carries_untraced (v : Visit) : v.untraced.carries = v.carries := rfl

@[simp] theorem applicable_untraced (v : Visit) : v.untraced.applicable = v.applicable := rfl

@[simp] theorem decides_untraced (v : Visit) (d : Decision) : v.untraced.decides d = v.decides d := rfl

end Visit

namespace Matching

variable {m m' : Matching}

/-- The condition has the same truth value, or the same fault, in the two sources. -/
def AgreesOn (m m' : Matching) (c : Condition) : Prop :=
  (c.evaluate m.source).result = (c.evaluate m'.source).result

theorem matcher_untraced (k : Matcher) {c : Condition} (h : m.AgreesOn m' c) :
    untraced (k.outcome m.source c) = untraced (k.outcome m'.source c) := by
  have hr : (c.evaluate m.source).result = (c.evaluate m'.source).result := h
  cases k with
  | always r => rfl
  | byValue =>
    simp only [Matcher.outcome, hr]
    cases (c.evaluate m'.source).result <;> rfl

theorem targetOutcome_untraced (hm : m.target = m'.target) {c : Option Condition}
    (h : ∀ d ∈ c.toList, m.AgreesOn m' d) :
    untraced (m.targetOutcome c) = untraced (m'.targetOutcome c) := by
  cases c with
  | none => rfl
  | some c =>
    simp only [targetOutcome, hm]
    exact matcher_untraced m'.target (h c (by simp))

theorem conditionOutcome_untraced (hm : m.condition = m'.condition) {c : Option Condition}
    (h : ∀ d ∈ c.toList, m.AgreesOn m' d) :
    untraced (m.conditionOutcome c) = untraced (m'.conditionOutcome c) := by
  cases c with
  | none => rfl
  | some c =>
    simp only [conditionOutcome, hm]
    exact matcher_untraced m'.condition (h c (by simp))

end Matching

/-- Outcomes that differ in their lookups at most. -/
theorem eq_of_untraced {o o' : β × Notes} (h : untraced o = untraced o') :
    o.1 = o'.1 ∧ o.2.untraced = o'.2.untraced :=
  Prod.mk.inj h

theorem Rule.outcome_untraced {m m' : Matching} {r : Rule}
    (ht : untraced (m.targetOutcome r.target) = untraced (m'.targetOutcome r.target))
    (hc : untraced (m.conditionOutcome r.condition) = untraced (m'.conditionOutcome r.condition)) :
    untraced (r.outcome m) = untraced (r.outcome m') := by
  unfold outcome
  generalize m.targetOutcome r.target = o at ht ⊢
  generalize m'.targetOutcome r.target = o' at ht ⊢
  generalize m.conditionOutcome r.condition = k at hc ⊢
  generalize m'.conditionOutcome r.condition = k' at hc ⊢
  obtain ⟨t, n⟩ := o
  obtain ⟨t', n'⟩ := o'
  obtain ⟨c, k⟩ := k
  obtain ⟨c', k'⟩ := k'
  obtain ⟨rfl, hn⟩ : t = t' ∧ n.untraced = n'.untraced := eq_of_untraced ht
  obtain ⟨rfl, hk⟩ : c = c' ∧ k.untraced = k'.untraced := eq_of_untraced hc
  cases t with
  | unmatched => exact congrArg (Prod.mk Decision.notApplicable) hn
  | indeterminate => exact congrArg (Prod.mk Decision.indeterminate) hn
  | matched =>
    cases c with
    | unmatched => exact congrArg (Prod.mk Decision.notApplicable) hk
    | indeterminate => exact congrArg (Prod.mk Decision.indeterminate) hk
    | matched => exact congrArg (Prod.mk r.effect.decision) hk

theorem Rule.visit_untraced {m m' : Matching} (ht : m.target = m'.target)
    (hc : m.condition = m'.condition) {r : Rule}
    (h : ∀ c ∈ r.target.toList ++ r.condition.toList, m.AgreesOn m' c) :
    (r.visit m).untraced = (r.visit m').untraced := by
  have htarget := m.targetOutcome_untraced ht fun c hm => h c (List.mem_append_left _ hm)
  have hcondition := m.conditionOutcome_untraced hc fun c hm => h c (List.mem_append_right _ hm)
  obtain ⟨hd, hn⟩ := eq_of_untraced (outcome_untraced htarget hcondition)
  have ha : (m.targetOutcome r.target).1 = (m'.targetOutcome r.target).1 := (eq_of_untraced htarget).1
  simp only [Visit.untraced, visit, hd, hn, ha]

section

variable (vs : List Visit)

theorem broughtBy_untraced (e : Effect) : broughtBy e (vs.map (·.untraced)) = broughtBy e vs := by
  rw [broughtBy, List.filter_map, List.flatMap_map]
  rfl

theorem faultsOf_untraced : faultsOf (vs.map (·.untraced)) = faultsOf vs := by
  simp only [faultsOf, List.filter_map, List.flatMap_map, List.foldl_map]
  rfl

theorem decisionsOf_untraced : decisionsOf (vs.map (·.untraced)) = decisionsOf vs :=
  List.filterMap_map ..

theorem lookupsOf_untraced : lookupsOf (vs.map (·.untraced)) = [] := by
  simp [lookupsOf, Visit.untraced, Notes.untraced]

/-- What a fold leaves tells of its lookups what its visits tell of theirs. -/
theorem closing_untraced (d : Decision) :
    closing d (vs.map (·.untraced)) = (closing d vs).untraced := by
  simp only [closing, broughtBy_untraced, faultsOf_untraced, lookupsOf_untraced, Notes.untraced]

theorem rankedOutcome_untraced (rank : List Decision → Decision) :
    rankedOutcome rank (vs.map (·.untraced)) = untraced (rankedOutcome rank vs) := by
  have hany : (vs.map (·.untraced)).any (·.decision.isNone) = vs.any (·.decision.isNone) :=
    List.any_map ..
  simp only [rankedOutcome, hany, decisionsOf_untraced, closing_untraced, illFormedNotes,
    lookupsOf_untraced]
  split <;> rfl

theorem soleOutcome_untraced (sole : Option Visit) :
    soleOutcome (sole.map (·.untraced)) (vs.map (·.untraced)) = untraced (soleOutcome sole vs) := by
  have hlone (v : Visit) : rankedOutcome firstApplying [v.untraced] =
      untraced (rankedOutcome firstApplying [v]) := rankedOutcome_untraced [v] firstApplying
  induction vs generalizing sole with
  | nil =>
    cases sole with
    | none => rfl
    | some v => exact hlone v
  | cons v vs ih =>
    have hfound := ih (some v)
    have hskip := ih sole
    simp only [List.map_cons, soleOutcome, Option.isSome_map, hlone, Visit.decision_untraced,
      Visit.applicable_untraced, Visit.decides_untraced]
    split
    · rfl
    · split
      · split
        · rfl
        · exact hfound
      · split
        · exact hskip
        · rfl

end

namespace PolicyAlgorithm

variable (f : α → Visit)

theorem reached_untraced (winner : Effect) (ra won : Bool) (xs : List α) :
    reached (fun x => (f x).untraced) winner ra won xs = reached f winner ra won xs := by
  induction xs generalizing won with
  | nil => rfl
  | cons x xs ih =>
    simp only [reached, ih, Visit.carries_untraced, Visit.decision_untraced, Visit.decides_untraced]

theorem searched_untraced (found : Bool) (xs : List α) :
    searched (fun x => (f x).untraced) found xs = searched f found xs := by
  induction xs generalizing found with
  | nil => rfl
  | cons x xs ih =>
    simp only [searched, ih, Visit.applicable_untraced, Visit.decision_untraced, Visit.decides_untraced]

theorem visited_untraced (a : PolicyAlgorithm) (ra : Bool) (xs : List α) :
    a.visited (fun x => (f x).untraced) ra xs = a.visited f ra xs := by
  unfold visited
  cases a.strategy with
  | overriding winner => exact reached_untraced f winner ra false xs
  | firstApplicable => rfl
  | onlyOneApplicable => exact searched_untraced f false xs

/-- A fold goes by what its children come to, and not by how values were come by. -/
theorem outcome_untraced (a : PolicyAlgorithm) (ra : Bool) (slots : Option (List (Option α))) :
    a.outcome (fun x => (f x).untraced) ra slots = untraced (a.outcome f ra slots) := by
  unfold outcome
  cases allPresent? slots with
  | none => rfl
  | some xs =>
    have hmap (ys : List α) : ys.map (fun x => (f x).untraced) = (ys.map f).map (·.untraced) := by
      rw [List.map_map]
      rfl
    have hsole := soleOutcome_untraced (xs.map f) none
    rw [Option.map_none] at hsole
    simp only [foldOutcome, visited_untraced, hmap]
    cases a.rank? with
    | some rank => exact rankedOutcome_untraced _ rank
    | none =>
      simp only [hsole, lookupsOf_untraced]
      rfl

theorem outcome_untraced_congr (a : PolicyAlgorithm) (ra : Bool) {f g : α → Visit}
    {slots : Option (List (Option α))} (h : ∀ x ∈ presentIn slots, (f x).untraced = (g x).untraced) :
    untraced (a.outcome f ra slots) = untraced (a.outcome g ra slots) := by
  have hslots := map_slots_congr h
  rw [← outcome_untraced, ← outcome_untraced,
    ← a.outcome_map (f := fun v => v) (fun x => (f x).untraced),
    ← a.outcome_map (f := fun v => v) (fun x => (g x).untraced), hslots]

end PolicyAlgorithm

namespace RuleAlgorithm

variable {m m' : Matching} {rs : List Rule}

section

variable (h : ∀ r ∈ rs, (r.visit m).untraced = (r.visit m').untraced)

include h

theorem decides_congr {r : Rule} (hr : r ∈ rs) (d : Decision) : r.decides m d = r.decides m' d :=
  congrArg (·.decides d) (h r hr)

theorem ranked_congr (winner : Effect) : ranked m winner rs = ranked m' winner rs := by
  have hd (d : Decision) : rs.any (·.decides m d) = rs.any (·.decides m' d) :=
    any_congr_of_mem fun r hr => decides_congr h hr d
  have hw : (rs.any fun r => r.decides m .indeterminate && r.effect = winner) =
      rs.any fun r => r.decides m' .indeterminate && r.effect = winner :=
    any_congr_of_mem fun r hr => by rw [decides_congr h hr]
  simp only [ranked, hd, hw]

theorem decisionOf_congr (a : RuleAlgorithm) : a.decisionOf m rs = a.decisionOf m' rs := by
  have hfirst : (rs.map fun r => (r.outcome m).1) = rs.map fun r => (r.outcome m').1 := by
    apply List.map_congr_left
    intro r hr
    exact Option.some.inj (congrArg (·.decision) (h r hr))
  cases a with
  | firstApplicable => rw [decisionOf, decisionOf, hfirst]
  | denyOverrides => exact ranked_congr h .deny
  | orderedDenyOverrides => exact ranked_congr h .deny
  | permitOverrides => exact ranked_congr h .permit
  | orderedPermitOverrides => exact ranked_congr h .permit

theorem visited_congr (a : RuleAlgorithm) : a.visited m rs = a.visited m' rs := by
  have hp (f : Bool → Bool) (d : Decision) :
      upTo (fun r => f (r.decides m d)) rs = upTo (fun r => f (r.decides m' d)) rs := by
    apply upTo_congr
    intro r hr
    rw [decides_congr h ((upTo_sublist _ rs).subset hr)]
  cases a with
  | firstApplicable => exact hp (!·) .notApplicable
  | denyOverrides => exact hp (·) .deny
  | orderedDenyOverrides => exact hp (·) .deny
  | permitOverrides => exact hp (·) .permit
  | orderedPermitOverrides => exact hp (·) .permit

end

theorem outcome_untraced_congr (a : RuleAlgorithm) {slots : Option (List (Option Rule))}
    (h : ∀ r ∈ presentIn slots, (r.visit m).untraced = (r.visit m').untraced) :
    untraced (a.outcome m slots) = untraced (a.outcome m' slots) := by
  unfold outcome
  cases hp : allPresent? slots with
  | none => rfl
  | some rs =>
    have hrs : ∀ r ∈ rs, (r.visit m).untraced = (r.visit m').untraced :=
      fun r hr => h r (mem_presentIn hp hr)
    have hvisits : ((a.visited m' rs).map (·.visit m)).map (·.untraced) =
        ((a.visited m' rs).map (·.visit m')).map (·.untraced) := by
      rw [List.map_map, List.map_map]
      apply List.map_congr_left
      intro r hr
      exact hrs r ((a.visited_sublist m' rs).subset hr)
    simp only [untraced, ← closing_untraced, decisionOf_congr hrs, visited_congr hrs, hvisits]

end RuleAlgorithm

theorem screenedVisit_untraced {m m' : Matching} {target : Option Condition}
    {out out' : Option (Decision × Notes)}
    (ht : untraced (m.targetOutcome target) = untraced (m'.targetOutcome target))
    (ho : out.map untraced = out'.map untraced) (declared : List Obligation) (carries : Bool) :
    (screenedVisit m target out declared carries).untraced =
      (screenedVisit m' target out' declared carries).untraced := by
  unfold screenedVisit
  generalize m.targetOutcome target = o at ht ⊢
  generalize m'.targetOutcome target = o' at ht ⊢
  obtain ⟨t, n⟩ := o
  obtain ⟨t', n'⟩ := o'
  obtain ⟨rfl, hn⟩ : t = t' ∧ n.untraced = n'.untraced := eq_of_untraced ht
  cases t with
  | unmatched => simp only [Visit.untraced, hn]
  | indeterminate => simp only [Visit.untraced, hn]
  | matched =>
    cases out with
    | none =>
      obtain rfl : out' = none := Option.map_eq_none_iff.mp ho.symm
      simp only [Visit.untraced, hn]
    | some o =>
      obtain ⟨o', rfl, h⟩ := Option.map_eq_some_iff.mp ho.symm
      obtain ⟨hd, hk⟩ := eq_of_untraced h
      have hk' : (o.2.following n.lookups).untraced = (o'.2.following n'.lookups).untraced := hk.symm
      simp only [Visit.untraced, hd, hk']

theorem Scene.foundVisit_untraced (n : Node) {v v' : Visit} (h : v.untraced = v'.untraced) :
    (foundVisit n v).untraced = (foundVisit n v').untraced :=
  congrArg (foundVisit n) h

namespace Scene

/-- Scenes that match alike, and agree on all that may be reached from a node: on what its conditions
come to and on where its references lead. -/
structure AgreesOn (s s' : Scene) (n : Node) : Prop where
  target : s.matching.target = s'.matching.target
  condition : s.matching.condition = s'.matching.condition
  respectAbandoned : s.respectAbandoned = s'.respectAbandoned
  conditions : ∀ m, s.Reaches n m → ∀ c ∈ m.conditions, s.matching.AgreesOn s'.matching c
  references : ∀ id, s.Reaches n (.reference id) → s.resolve id = s'.resolve id

namespace AgreesOn

variable {s s' : Scene}

theorem child {h : PolicySetHeader} {children : Option (List (Option Node))}
    (ha : s.AgreesOn s' (.policySet h children)) {n : Node} (hn : n ∈ presentIn children) :
    s.AgreesOn s' n :=
  { ha with
    conditions := fun m hm => ha.conditions m (.child hn hm)
    references := fun id hid => ha.references id (.child hn hid) }

theorem behind {id : String} (ha : s.AgreesOn s' (.reference id)) {n : Node}
    (hn : s.resolve id = some n) : s.AgreesOn s' n :=
  { ha with
    conditions := fun m hm => ha.conditions m (.reference hn hm)
    references := fun id' hid => ha.references id' (.reference hn hid) }

/-- A node comes to the same in both scenes, whatever they hold besides. -/
theorem alone_untraced {n : Node} (ha : s.AgreesOn s' n) (ctx : Context) :
    (s.alone ctx n).untraced = (s'.alone ctx n).untraced := by
  induction ctx, n using s.induct with
  | policy ctx p =>
    have hown := ha.conditions _ (.self _)
    have htarget := s.matching.targetOutcome_untraced ha.target (c := p.target)
      fun c hc => hown c (List.mem_append_left _ hc)
    have hrules (r : Rule) (hr : r ∈ presentIn p.rules) :
        (r.visit s.matching).untraced = (r.visit s'.matching).untraced := by
      apply Rule.visit_untraced ha.target ha.condition
      intro c hc
      exact hown c (List.mem_append_right _ (List.mem_flatMap.mpr ⟨r, hr, hc⟩))
    rw [alone_policy, alone_policy]
    apply screenedVisit_untraced htarget
    rw [Option.map_map, Option.map_map]
    apply Option.map_congr
    intro a _
    exact a.outcome_untraced_congr hrules
  | policySet ctx h children ih =>
    have htarget := s.matching.targetOutcome_untraced ha.target (c := h.target)
      (ha.conditions _ (.self _))
    have hchildren (n : Node) (hn : n ∈ presentIn children) :
        (s.alone ctx n).untraced = (s'.alone ctx n).untraced := ih n hn (ha.child hn)
    rw [alone_policySet, alone_policySet, ← ha.respectAbandoned]
    apply screenedVisit_untraced htarget
    rw [Option.map_map, Option.map_map]
    apply Option.map_congr
    intro a _
    exact a.outcome_untraced_congr s.respectAbandoned hchildren
  | reference ctx id ih =>
    have hid : s.resolve id = s'.resolve id := ha.references id (.self _)
    rw [alone_reference, alone_reference, ← hid]
    split
    · rename_i n inner hn he
      exact foundVisit_untraced n (ih n inner hn he (ha.behind hn))
    · rfl

end AgreesOn

end Scene

end Arbiter
