import Arbiter.Proofs.Condition

/-! Comparing two evaluations of one condition, in two sources or with other operands.

However the results of the comparisons are related, if a connective cannot break the relation, then the
results of the whole condition are related too. -/

namespace Arbiter

theorem any_congr_of_mem {p q : α → Bool} {xs : List α} (h : ∀ x ∈ xs, p x = q x) :
    xs.any p = xs.any q := by
  rw [Bool.eq_iff_iff, List.any_eq_true, List.any_eq_true]
  apply exists_congr
  intro x
  apply and_congr_right
  intro hx
  rw [h x hx]

/-- A relation between results that holds of what is done with related truth values. -/
structure Congruence (R : Except Fault Bool → Except Fault Bool → Prop) : Prop where
  refl : ∀ r, R r r
  bind : ∀ {o o' : Outcome Bool} {k k' : Bool → Outcome Bool}, R o.result o'.result →
    (∀ b, R (k b).result (k' b).result) → R (o.bind k).result (o'.bind k').result

theorem Outcome.bind_result {o o' : Outcome α} {k k' : α → Outcome β} (ho : o.result = o'.result)
    (hk : ∀ a, (k a).result = (k' a).result) : (o.bind k).result = (o'.bind k').result := by
  unfold bind
  rw [← ho]
  cases o.result with
  | ok a => exact hk a
  | error e => rfl

theorem congruence_eq : Congruence Eq := ⟨fun _ => rfl, Outcome.bind_result⟩

namespace Condition

mutual

/-- Puts other operands in the place of those of the condition and of all nested in it. -/
def mapOperands (g : Operand → Operand) : Condition → Condition
  | ⟨o, d, v, cs⟩ => ⟨o, d, v.map g, mapOperandsAll g cs⟩

def mapOperandsAll (g : Operand → Operand) : List Condition → List Condition
  | [] => []
  | c :: cs => c.mapOperands g :: mapOperandsAll g cs

end

theorem mapOperandsAll_eq (g : Operand → Operand) (cs : List Condition) :
    mapOperandsAll g cs = cs.map (mapOperands g) := by
  induction cs with
  | nil => rfl
  | cons c cs ih => rw [mapOperandsAll, ih, List.map_cons]

theorem mapOperands_id (c : Condition) : c.mapOperands id = c := by
  induction c using Condition.induct with
  | step o d v cs ih =>
    rw [mapOperands, mapOperandsAll_eq, Option.map_id, id, List.map_congr_left ih, List.map_id']

variable {R : Except Fault Bool → Except Fault Bool → Prop} (hR : Congruence R) {g : Operand → Operand}
  {s s' : Source}

include hR

theorem evaluateUntil_congr {stop : Bool} {cs : List Condition}
    (h : ∀ c ∈ cs, R (c.evaluate s).result ((c.mapOperands g).evaluate s').result) :
    R (evaluateUntil s stop cs).result (evaluateUntil s' stop (mapOperandsAll g cs)).result := by
  induction cs with
  | nil => exact hR.refl _
  | cons c cs ih =>
    have hrest := ih fun d hd => h d (List.mem_cons_of_mem c hd)
    apply hR.bind (h c List.mem_cons_self)
    intro b
    split
    · exact hR.refl _
    · exact hrest

theorem evaluateNegated_congr {cs : List Condition}
    (h : ∀ c ∈ cs, R (c.evaluate s).result ((c.mapOperands g).evaluate s').result) :
    R (evaluateNegated s cs).result (evaluateNegated s' (mapOperandsAll g cs)).result := by
  cases cs with
  | nil => exact hR.refl _
  | cons c cs => exact hR.bind (h c List.mem_cons_self) fun _ => hR.refl _

/-- Results are related if those of all comparisons in the condition are. -/
theorem evaluate_congr {c : Condition}
    (h : ∀ p, c.Part p → p.isConnective = false →
      R (evaluateTest s p.operator p.designator p.operand).result
        (evaluateTest s' p.operator p.designator (p.operand.map g)).result) :
    R (c.evaluate s).result ((c.mapOperands g).evaluate s').result := by
  induction c using Condition.induct with
  | step o d v cs ih =>
    have hcs (hconn : (⟨o, d, v, cs⟩ : Condition).isConnective) :
        ∀ c ∈ cs, R (c.evaluate s).result ((c.mapOperands g).evaluate s').result :=
      fun c hc => ih c hc fun p hp => h p (.nested hconn hc hp)
    cases o with
    | and =>
      rw [mapOperands, evaluate_and, evaluate_and]
      exact evaluateUntil_congr hR (hcs rfl)
    | or =>
      rw [mapOperands, evaluate_or, evaluate_or]
      exact evaluateUntil_congr hR (hcs rfl)
    | not => exact evaluateNegated_congr hR (hcs rfl)
    | test t => exact h _ (.self _) rfl
    | notEquals | notWithin | present | absent => exact h _ (.self _) rfl

/-- The same for one condition in two sources. -/
theorem evaluate_congr_source {c : Condition}
    (h : ∀ p, c.Part p → R (evaluateTest s p.operator p.designator p.operand).result
      (evaluateTest s' p.operator p.designator p.operand).result) :
    R (c.evaluate s).result (c.evaluate s').result := by
  have hsame : R (c.evaluate s).result ((c.mapOperands id).evaluate s').result := by
    apply evaluate_congr hR
    intro p hp _
    rw [Option.map_id, id]
    exact h p hp
  rwa [mapOperands_id] at hsame

omit hR

/-- Sources that hold the same under all designators of a condition give it the same truth value, or
none for the same fault. -/
theorem evaluate_result {c : Condition} (h : ∀ p, c.Part p → ∀ d, p.designator = some d →
    (s.bag d).result = (s'.bag d).result) : (c.evaluate s).result = (c.evaluate s').result := by
  apply evaluate_congr_source congruence_eq
  intro p hp
  cases hd : p.designator with
  | none => rfl
  | some d => exact Outcome.bind_result (h p hp d hd) fun _ => rfl

end Condition

end Arbiter
