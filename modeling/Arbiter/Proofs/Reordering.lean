import Arbiter.Proofs.Comparison
import Arbiter.Proofs.Congruence
import Mathlib.Data.List.Forall2

/-! Bags as multisets: what it changes to list the values of a request in another order.

A comparison goes through a bag until a value passes or cannot be tested at all. A bag has values of both
kinds only where numbers are compared by size and some value is no number. In every other bag the order
does not matter. -/

namespace Arbiter

/-- The same attribute with its values in some order. -/
structure Attribute.Reorders (a a' : Attribute) : Prop where
  category : a.category = a'.category
  attributeId : a.attributeId = a'.attributeId
  dataType : a.dataType = a'.dataType
  issuer : a.issuer = a'.issuer
  values : a.values.Perm a'.values

/-- The same attributes in some order, and in some order the values of each. -/
def Request.Reorders (r r' : Request) : Prop :=
  ∃ as, List.Forall₂ Attribute.Reorders r.attributes as ∧ as.Perm r'.attributes

/-- The same values in some order, or the same failure. -/
inductive SameBag : Except ε (List Json) → Except ε (List Json) → Prop
  | values {vs vs' : List Json} (h : vs.Perm vs') : SameBag (.ok vs) (.ok vs')
  | failure (e : ε) : SameBag (.error e) (.error e)

theorem Attribute.Reorders.isSelectedBy {a a' : Attribute} (h : a.Reorders a') (d : Designator) :
    a.isSelectedBy d = a'.isSelectedBy d := by
  have hissuer : a.matchesIssuer d.issuer = a'.matchesIssuer d.issuer := by
    unfold matchesIssuer
    rw [h.issuer]
  rw [Attribute.isSelectedBy, h.category, h.attributeId, h.dataType, hissuer, Attribute.isSelectedBy]

theorem bagOf_cons (d : Designator) (a : Attribute) (as : List Attribute) :
    bagOf d (a :: as) = (if a.isSelectedBy d then a.values else []) ++ bagOf d as := by
  cases h : a.isSelectedBy d <;> simp [bagOf, h]

theorem bagOf_reorders {as as' : List Attribute} (h : List.Forall₂ Attribute.Reorders as as')
    (d : Designator) : (bagOf d as).Perm (bagOf d as') := by
  induction h with
  | nil => exact .refl _
  | cons ha _ ih =>
    rw [bagOf_cons, bagOf_cons, ha.isSelectedBy d]
    refine List.Perm.append ?_ ih
    split
    · exact ha.values
    · exact .refl _

theorem Request.Reorders.bag {r r' : Request} (h : r.Reorders r') (d : Designator) :
    (r.bag d).Perm (r'.bag d) := by
  obtain ⟨as, hvalues, hattributes⟩ := h
  exact (bagOf_reorders hvalues d).trans ((hattributes.filter _).flatMap_right _)

namespace Source

variable {f : Option Finder} {r r' : Request}

/-- Sources hold the same under every designator, if the requests do and the finder does not go by the
order. -/
theorem bag_sameBag (hr : r.Reorders r') (hf : ∀ g ∈ f, ∀ d, SameBag (g d r) (g d r'))
    (d : Designator) : SameBag (bag ⟨r, f⟩ d).result (bag ⟨r', f⟩ d).result := by
  have hfind : SameBag (find ⟨r, f⟩ d).result (find ⟨r', f⟩ d).result := by
    cases f with
    | none => exact .values (.refl _)
    | some g =>
      have hg := hf g rfl d
      simp only [find]
      cases hv : g d r <;> cases hv' : g d r' <;> rw [hv, hv'] at hg <;> cases hg
      · exact .failure _
      · exact .values ‹_›
  have hvalues : SameBag (values ⟨r, f⟩ d).result (values ⟨r', f⟩ d).result := by
    have hbag := hr.bag d
    simp only [values, ← hbag.isEmpty_eq]
    split
    · exact hfind
    · exact .values hbag
  simp only [bag, Outcome.bind]
  generalize (values ⟨r, f⟩ d).result = o at hvalues
  generalize (values ⟨r', f⟩ d).result = o' at hvalues
  cases hvalues with
  | failure e => exact .failure e
  | values h =>
    simp only [← h.isEmpty_eq]
    split
    · exact .failure _
    · exact .values h

end Source

namespace Test

/-- Some value passes the test, and some other cannot be tested. -/
def Torn (t : Test) (b : Operand) (bag : List Json) : Prop :=
  (∃ a ∈ bag, t.holds a b = .ok true) ∧ ∃ a ∈ bag, ∃ f, t.holds a b = .error f

/-- Only a comparison by size can be torn, by values that are no numbers next to one that is. -/
theorem Torn.mixed {t : Test} {b : Operand} {bag : List Json} (h : t.Torn b bag) :
    t.isOrdering ∧ (∃ a ∈ bag, a.toDouble?.isSome) ∧ ∃ a ∈ bag, a.toDouble? = none := by
  obtain ⟨⟨a, ha, hpass⟩, a', ha', f, hfault⟩ := h
  obtain ⟨-, hordering, hnumber, hnone⟩ := holds_torn hpass hfault
  exact ⟨hordering, ⟨a, ha, hnumber⟩, a', ha', hnone⟩

end Test

/-- A comparison holds if some value passes, unless the bag is torn. -/
theorem anyHolds_eq_true_iff {t : Test} {b : Operand} {bag : List Json} (h : ¬ t.Torn b bag) :
    anyHolds t b bag = .ok true ↔ ∃ a ∈ bag, t.holds a b = .ok true := by
  rcases anyHolds_cases t b bag with ⟨hend, hall⟩ | ⟨a, ha, hstop, hne⟩
  · rw [hend]
    constructor
    · intro hfalse
      cases hfalse
    · rintro ⟨a, ha, hpass⟩
      rw [hall a ha] at hpass
      cases hpass
  · rw [hstop]
    constructor
    · exact fun hpass => ⟨a, ha, hpass⟩
    · intro hpass
      cases hr : t.holds a b with
      | ok c =>
        cases c with
        | true => rfl
        | false => exact absurd hr hne
      | error f => exact absurd ⟨hpass, a, ha, f, hr⟩ h

/-- The same result, unless something is the case and one of the two is that a value is no number. -/
def SameUnless (torn : Prop) (o o' : Except Fault Bool) : Prop :=
  o = o' ∨ torn ∧ (o = .error .notNumeric ∨ o' = .error .notNumeric)

theorem congruence_sameUnless (torn : Prop) : Congruence (SameUnless torn) where
  refl _ := .inl rfl
  bind := by
    intro o o' k k' ho hk
    rcases ho with heq | ⟨ht, hfault⟩
    · unfold Outcome.bind
      rw [← heq]
      cases o.result with
      | ok b => exact hk b
      | error f => exact .inl rfl
    · refine .inr ⟨ht, hfault.imp ?_ ?_⟩ <;> intro h <;> unfold Outcome.bind <;> rw [h]

/-- Two values of a bag that end the loop over it end it alike, unless the bag is torn. -/
theorem Test.holds_sameUnless {t : Test} {b : Operand} {bag : List Json} {a a' : Json} (ha : a ∈ bag)
    (ha' : a' ∈ bag) (hne : t.holds a b ≠ .ok false) (hne' : t.holds a' b ≠ .ok false) :
    SameUnless (t.Torn b bag) (t.holds a b) (t.holds a' b) := by
  have hpass (c : Bool) (h : Except.ok c ≠ (.ok false : Except Fault Bool)) : c = true := by
    cases c <;> simp_all
  cases hr : t.holds a b with
  | ok c =>
    obtain rfl := hpass c (hr ▸ hne)
    cases hr' : t.holds a' b with
    | ok c' =>
      obtain rfl := hpass c' (hr' ▸ hne')
      exact .inl rfl
    | error f =>
      obtain ⟨rfl, -⟩ := holds_torn hr hr'
      exact .inr ⟨⟨⟨a, ha, hr⟩, a', ha', _, hr'⟩, .inr rfl⟩
  | error f =>
    cases hr' : t.holds a' b with
    | ok c' =>
      obtain rfl := hpass c' (hr' ▸ hne')
      obtain ⟨rfl, -⟩ := holds_torn hr' hr
      exact .inr ⟨⟨⟨a', ha', hr'⟩, a, ha, _, hr⟩, .inl rfl⟩
    | error f' => exact .inl (congrArg _ (holds_fault_eq hr hr'))

theorem anyHolds_perm (t : Test) (b : Operand) {bag bag' : List Json} (h : bag.Perm bag') :
    SameUnless (t.Torn b bag) (anyHolds t b bag) (anyHolds t b bag') := by
  rcases anyHolds_cases t b bag with ⟨hend, hall⟩ | ⟨a, ha, hstop, hne⟩ <;>
    rcases anyHolds_cases t b bag' with ⟨hend', hall'⟩ | ⟨a', ha', hstop', hne'⟩
  · exact .inl (hend.trans hend'.symm)
  · exact absurd (hall a' (h.mem_iff.mpr ha')) hne'
  · exact absurd (hall' a (h.mem_iff.mp ha)) hne
  · rw [hstop, hstop']
    exact Test.holds_sameUnless ha (h.mem_iff.mpr ha') hne hne'

namespace Condition

/-- The bag that the comparison asks for is torn. -/
def TornIn (s : Source) (c : Condition) : Prop :=
  ∃ t d b bag, c.operator = .test t ∧ c.designator = some d ∧ c.operand = some b ∧
    (s.bag d).result = .ok bag ∧ t.Torn b bag

theorem judge_perm (o : Operator) (v : Option Operand) {bag bag' : List Json} (h : bag.Perm bag') :
    SameUnless (∃ t b, o = .test t ∧ v = some b ∧ t.Torn b bag) (judge o v bag) (judge o v bag') := by
  have hany (p : Json → Bool) : bag.any p = bag'.any p := by
    rw [Bool.eq_iff_iff, List.any_eq_true, List.any_eq_true]
    simp only [h.mem_iff]
  cases o with
  | and | or | not => exact .inl rfl
  | present | absent => exact .inl (by simp only [judge, h.isEmpty_eq])
  | notEquals | notWithin =>
    cases v with
    | none => exact .inl rfl
    | some b => exact .inl (by simp only [judge, hany])
  | test t =>
    cases v with
    | none => exact .inl rfl
    | some b =>
      exact (anyHolds_perm t b h).imp_right fun ⟨ht, hf⟩ => ⟨⟨t, b, rfl, rfl, ht⟩, hf⟩

/-- Sources that hold the same give a condition the same truth value or the same fault, unless one of its
comparisons asks for a torn bag. Even then no truth value turns into the other. -/
theorem evaluate_sameUnless {s s' : Source} (h : ∀ d, SameBag (s.bag d).result (s'.bag d).result)
    (c : Condition) :
    SameUnless (∃ p, c.Part p ∧ p.TornIn s) (c.evaluate s).result (c.evaluate s').result := by
  apply evaluate_congr_source (congruence_sameUnless _)
  intro p hp
  cases hd : p.designator with
  | none => exact .inl rfl
  | some d =>
    have hbag := h d
    simp only [evaluateTest, Outcome.bind]
    cases hb : (s.bag d).result <;> cases hb' : (s'.bag d).result <;> rw [hb, hb'] at hbag <;>
      cases hbag
    · exact .inl rfl
    · rename_i hperm
      apply (judge_perm p.operator p.operand hperm).imp_right
      rintro ⟨⟨t, b, ho, hv, ht⟩, hf⟩
      exact ⟨⟨p, hp, t, d, b, _, ho, hd, hv, hb, ht⟩, hf⟩

end Condition

end Arbiter
