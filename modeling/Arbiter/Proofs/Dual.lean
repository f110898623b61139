import Arbiter.Proofs.Comparison
import Arbiter.Proofs.Condition

/-! Duality: what comes of a condition when `and` changes places with `or`, and each test for equality,
membership or presence with its negation.

The dual says the opposite, and it looks at the same values in the same order. So it fails where the
condition fails, and the attribute finder is asked for the same. -/

namespace Arbiter

namespace Outcome

theorem bind_assoc (o : Outcome α) (f : α → Outcome β) (g : β → Outcome γ) :
    (o.bind f).bind g = o.bind fun a => (f a).bind g := by
  obtain ⟨r, ls⟩ := o
  cases r with
  | error e => rfl
  | ok a =>
    simp only [bind]
    cases (f a).result with
    | error e => rfl
    | ok b => simp only [List.append_assoc]

theorem negate_negate (o : Outcome Bool) : o.negate.negate = o := by
  obtain ⟨r, ls⟩ := o
  cases r <;> simp [negate, bind, pure]

theorem negate_bind (o : Outcome α) (f : α → Outcome Bool) :
    (o.bind f).negate = o.bind fun a => (f a).negate :=
  bind_assoc o f _

theorem negate_result (o : Outcome Bool) : o.negate.result = o.result.map (!·) := by
  obtain ⟨r, ls⟩ := o
  cases r <;> rfl

theorem negate_lookups (o : Outcome Bool) : o.negate.lookups = o.lookups := by
  obtain ⟨r, ls⟩ := o
  cases r <;> simp [negate, bind, pure]

end Outcome

namespace Condition

mutual

/-- The condition that says the opposite, its negations drawn inwards as far as operators have a
counterpart. -/
def dual : Condition → Condition
  | ⟨.and, d, v, cs⟩ => ⟨.or, d, v, dualAll cs⟩
  | ⟨.or, d, v, cs⟩ => ⟨.and, d, v, dualAll cs⟩
  | ⟨.not, d, v, cs⟩ => ⟨.not, d, v, dualAll cs⟩
  | ⟨.test .equals, d, v, cs⟩ => ⟨.notEquals, d, v, cs⟩
  | ⟨.notEquals, d, v, cs⟩ => ⟨.test .equals, d, v, cs⟩
  | ⟨.test .within, d, v, cs⟩ => ⟨.notWithin, d, v, cs⟩
  | ⟨.notWithin, d, v, cs⟩ => ⟨.test .within, d, v, cs⟩
  | ⟨.present, d, v, cs⟩ => ⟨.absent, d, v, cs⟩
  | ⟨.absent, d, v, cs⟩ => ⟨.present, d, v, cs⟩
  | ⟨.test t, d, v, cs⟩ => not ⟨.test t, d, v, cs⟩

def dualAll : List Condition → List Condition
  | [] => []
  | c :: cs => c.dual :: dualAll cs

end

variable {s : Source}

/-- What ends one connective keeps the other going. -/
theorem evaluateUntil_dual (stop : Bool) {cs : List Condition}
    (h : ∀ c ∈ cs, c.dual.evaluate s = (c.evaluate s).negate) :
    evaluateUntil s (!stop) (dualAll cs) = (evaluateUntil s stop cs).negate := by
  induction cs with
  | nil => rfl
  | cons c cs ih =>
    have hrest := ih fun d hd => h d (List.mem_cons_of_mem c hd)
    rw [dualAll, evaluateUntil, evaluateUntil, h c List.mem_cons_self, Outcome.negate, Outcome.bind_assoc,
      Outcome.negate_bind]
    congr 1
    funext b
    by_cases hb : b = stop
    · subst hb
      simp [Outcome.bind, Outcome.pure, Outcome.negate]
    · simp [hb, hrest, Outcome.bind, Outcome.pure]

/-- Operators that judge every bag contrarily. -/
theorem evaluateTest_negate {o p : Operator} {v : Option Operand}
    (h : ∀ bag, judge p v bag = (judge o v bag).map (!·)) (d? : Option Designator) :
    evaluateTest s p d? v = (evaluateTest s o d? v).negate := by
  cases d? with
  | none => rfl
  | some d =>
    rw [evaluateTest, evaluateTest, Outcome.negate_bind]
    congr 1
    funext bag
    rw [h]
    cases judge o v bag <;> rfl

/-- A test that faults for no value, and the operator that holds where no value passes it. -/
theorem evaluateTest_of_total {t : Test} {o : Operator} {b : Operand} {p : Json → Bool}
    (ht : ∀ a, t.holds a b = .ok (p a)) (ho : ∀ bag, judge o (some b) bag = .ok (!bag.any p))
    (d? : Option Designator) :
    evaluateTest s o d? (some b) = (evaluateTest s (.test t) d? (some b)).negate := by
  apply evaluateTest_negate
  intro bag
  rw [ho, judge, anyHolds_of_total ht bag]
  rfl

theorem evaluateTest_absent (d? : Option Designator) (v : Option Operand) :
    evaluateTest s .absent d? v = (evaluateTest s .present d? v).negate :=
  evaluateTest_negate (fun bag => by simp [judge, Except.map]) d?

/-- A comparison that has all it needs, against its counterpart or inside a negation. -/
theorem evaluate_dual_of_comparison {o : Operator} {d? : Option Designator} {v : Option Operand}
    {cs : List Condition} (hown : (⟨o, d?, v, cs⟩ : Condition).ownFlaw? = none)
    (hconn : (⟨o, d?, v, cs⟩ : Condition).isConnective = false) :
    (dual ⟨o, d?, v, cs⟩).evaluate s = (evaluateTest s o d? v).negate := by
  obtain ⟨-, hv⟩ := comparison_complete hown hconn
  cases o with
  | and | or | not => simp [isConnective] at hconn
  | present => exact evaluateTest_absent d? v
  | absent =>
    rw [evaluateTest_absent, Outcome.negate_negate]
    rfl
  | notEquals =>
    obtain ⟨b, rfl⟩ := Option.isSome_iff_exists.mp (by simpa using hv)
    rw [evaluateTest_of_total (t := .equals) (fun _ => rfl) (fun _ => rfl), Outcome.negate_negate]
    rfl
  | notWithin =>
    obtain ⟨b, rfl⟩ := Option.isSome_iff_exists.mp (by simpa using hv)
    rw [evaluateTest_of_total (t := .within) (fun _ => rfl) (fun _ => rfl), Outcome.negate_negate]
    rfl
  | test t =>
    obtain ⟨b, rfl⟩ := Option.isSome_iff_exists.mp (by simpa using hv)
    cases t with
    | equals => exact evaluateTest_of_total (fun _ => rfl) (fun _ => rfl) d?
    | within => exact evaluateTest_of_total (fun _ => rfl) (fun _ => rfl) d?
    | _ => rfl

theorem evaluate_dual_eq {c : Condition} (hc : c.flaw? = none) :
    c.dual.evaluate s = (c.evaluate s).negate := by
  induction c using Condition.induct with
  | step o d? v cs ih =>
    obtain ⟨hown, hnested⟩ := flaw?_eq_none hc
    have hcs (hconn : (⟨o, d?, v, cs⟩ : Condition).isConnective) :
        ∀ c ∈ cs, c.dual.evaluate s = (c.evaluate s).negate :=
      fun c hm => ih c hm (hnested hconn c hm)
    cases o with
    | and =>
      rw [dual, evaluate_or, evaluate_and]
      exact evaluateUntil_dual false (hcs rfl)
    | or =>
      rw [dual, evaluate_and, evaluate_or]
      exact evaluateUntil_dual true (hcs rfl)
    | not =>
      cases cs with
      | nil => simp [ownFlaw?] at hown
      | cons c cs => exact congrArg Outcome.negate (hcs rfl c List.mem_cons_self)
    | test t => exact evaluate_dual_of_comparison hown rfl
    | notEquals | notWithin | present | absent => exact evaluate_dual_of_comparison hown rfl

/-- The dual of a condition without a flaw comes to the opposite truth value, or to the same fault, and has
the attribute finder asked for the same designators in the same order. -/
theorem evaluate_dual {c : Condition} (hc : c.flaw? = none) (s : Source) :
    (c.dual.evaluate s).result = (c.evaluate s).result.map (!·) ∧
      (c.dual.evaluate s).lookups = (c.evaluate s).lookups := by
  rw [evaluate_dual_eq hc]
  exact ⟨Outcome.negate_result _, Outcome.negate_lookups _⟩

/-- A guest or someone above level three, where the finder that should know the level is down. -/
theorem evaluate_dual_failing :
    let role : Designator := { category := .subject, attributeId := "role" }
    let level : Designator := { category := .resource, attributeId := "level" }
    let above := compare .greater level (.integer 3)
    let c := or [compare .equals role (.string "guest"), above]
    let admin : Attribute := { category := .subject, attributeId := "role", values := [.string "admin"] }
    let s : Source := ⟨{ attributes := [admin] }, some fun _ _ => .error (.io "down")⟩
    c.dual = and [⟨.notEquals, role, some (.string "guest"), []⟩, not above] ∧ c.flaw? = none ∧
      (c.dual.evaluate s).result = .error (.finder (.io "down")) ∧
      (c.dual.evaluate s).lookups = [level] := by
  intro role level above c admin s
  have hc : c.flaw? = none := by decide
  obtain ⟨hresult, hlookups⟩ := evaluate_dual hc s
  exact ⟨rfl, hc, hresult.trans rfl, hlookups.trans rfl⟩

end Condition

end Arbiter
