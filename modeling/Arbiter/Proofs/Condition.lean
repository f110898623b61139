import Arbiter.Condition.Evaluation

namespace Arbiter

/-- A fault that lies with the request: a value is not there, or it is no number. -/
inductive Fault.OfRequest : Fault → Prop
  | missing (m : MissingAttribute) : OfRequest (.missing m)
  | notNumeric : OfRequest .notNumeric

theorem Fault.OfRequest.status_ne {f : Fault} (h : f.OfRequest) : f.error.status ≠ .syntaxError := by
  cases h <;> simp [error, Error.status]

/-- If this comes to nothing, that lies with the request. -/
def Outcome.Proper (o : Outcome α) : Prop := ∀ f, o.result = .error f → f.OfRequest

namespace Outcome

theorem Proper.pure (a : α) : (Outcome.pure a).Proper := fun _ h => nomatch h

theorem Proper.bind {o : Outcome α} {k : α → Outcome β} (ho : o.Proper) (hk : ∀ a, (k a).Proper) :
    (o.bind k).Proper := by
  intro f hf
  unfold Outcome.bind at hf
  cases hr : o.result with
  | ok a =>
    rw [hr] at hf
    exact hk a f hf
  | error e =>
    rw [hr] at hf
    obtain rfl := Except.error.inj hf
    exact ho e hr

theorem Proper.negate {o : Outcome Bool} (ho : o.Proper) : o.negate.Proper :=
  ho.bind fun b => Proper.pure (!b)

end Outcome

/-- Without a finder, a bag can only be empty. -/
theorem Source.bag_proper {s : Source} (hs : s.finder = none) (d : Designator) : (s.bag d).Proper := by
  have hvalues : (s.values d).Proper := by
    simp only [values, find, hs]
    split <;> exact Outcome.Proper.pure _
  refine hvalues.bind fun bag => ?_
  split
  · intro f hf
    obtain rfl := Except.error.inj hf
    exact .missing d.missing
  · exact Outcome.Proper.pure bag

namespace Condition

/-- Induction over conditions: what holds of all nested conditions holds of the condition. -/
theorem induct {P : Condition → Prop}
    (step : ∀ o d v cs, (∀ c ∈ cs, P c) → P ⟨o, d, v, cs⟩) (c : Condition) : P c := by
  apply @Condition.rec P (fun cs => ∀ c ∈ cs, P c)
  · exact step
  · intro c hc
    exact absurd hc List.not_mem_nil
  · intro c cs hc hcs d hd
    rcases List.mem_cons.mp hd with rfl | hd
    · exact hc
    · exact hcs d hd

/-- Whatever a pattern test compares with, if it is a text it can be read as a pattern. -/
def PatternReads (c : Condition) : Prop :=
  c.operator = .test .fits → ∀ text, c.operand = some (.string text) → (Pattern.ofText? text).isSome

/-- The condition itself and those that its connectives join, at any depth. -/
inductive Part : Condition → Condition → Prop
  | self (c : Condition) : Part c c
  | nested {c d p : Condition} : c.isConnective → d ∈ c.nested → Part d p → Part c p

theorem Part.trans {c d p : Condition} (hd : c.Part d) (hp : d.Part p) : c.Part p := by
  induction hd with
  | self => exact hp
  | nested hc hm _ ih => exact .nested hc hm (ih hp)

theorem compareNumbers_fault {holds : Binary64 → Binary64 → Bool} {a : Json} {b : Operand} {f : Fault}
    (h : compareNumbers holds a b = .error f) : f.OfRequest := by
  unfold compareNumbers at h
  split at h
  · cases h
  · obtain rfl := Except.error.inj h
    exact .notNumeric

theorem holds_fault {t : Test} {a : Json} {b : Operand} {f : Fault}
    (hp : t = .fits → ∀ text, b = .string text → (Pattern.ofText? text).isSome)
    (h : t.holds a b = .error f) : f.OfRequest := by
  cases t with
  | greater | greaterOrEqual | less | lessOrEqual => exact compareNumbers_fault h
  | equals | within | contains | startsWith | endsWith => cases h
  | fits =>
    simp only [Test.holds] at h
    unfold matchText at h
    split at h
    · rename_i text
      obtain ⟨p, hpat⟩ := Option.isSome_iff_exists.mp (hp rfl text rfl)
      simp [hpat] at h
    · cases h

theorem anyHolds_fault {t : Test} {b : Operand} {bag : List Json} {f : Fault}
    (hp : t = .fits → ∀ text, b = .string text → (Pattern.ofText? text).isSome)
    (h : anyHolds t b bag = .error f) : f.OfRequest := by
  induction bag with
  | nil => cases h
  | cons a as ih =>
    unfold anyHolds at h
    split at h
    · exact ih h
    · exact holds_fault hp h

/-- A comparison has a designator, and an operand if it compares with one. -/
theorem comparison_complete {c : Condition} (hc : c.ownFlaw? = none) (hn : c.isConnective = false) :
    c.designator.isSome ∧ (c.operator = .present ∨ c.operator = .absent ∨ c.operand.isSome) := by
  obtain ⟨o, d, v, cs⟩ := c
  cases o <;> cases d <;> cases v <;> simp_all [ownFlaw?, isConnective]

theorem judge_fault {o : Operator} {v : Option Operand} {bag : List Json} {f : Fault}
    (hn : o ≠ .and ∧ o ≠ .or ∧ o ≠ .not) (hv : o = .present ∨ o = .absent ∨ v.isSome)
    (hp : o = .test .fits → ∀ text, v = some (.string text) → (Pattern.ofText? text).isSome)
    (h : judge o v bag = .error f) : f.OfRequest := by
  cases o with
  | and | or | not => simp at hn
  | present | absent => cases h
  | notEquals | notWithin =>
    obtain ⟨b, rfl⟩ := Option.isSome_iff_exists.mp (by simpa using hv)
    cases h
  | test t =>
    obtain ⟨b, rfl⟩ := Option.isSome_iff_exists.mp (by simpa using hv)
    refine anyHolds_fault ?_ h
    rintro rfl text rfl
    exact hp rfl text rfl

theorem evaluateTest_proper {s : Source} (hs : s.finder = none) {c : Condition}
    (hc : c.ownFlaw? = none) (hn : c.isConnective = false) (hp : c.PatternReads) :
    (evaluateTest s c.operator c.designator c.operand).Proper := by
  obtain ⟨hd, hv⟩ := comparison_complete hc hn
  have ho : c.operator ≠ .and ∧ c.operator ≠ .or ∧ c.operator ≠ .not := by
    cases hop : c.operator <;> simp_all [isConnective]
  obtain ⟨d, hd⟩ := Option.isSome_iff_exists.mp hd
  rw [hd]
  exact (s.bag_proper hs d).bind fun bag f hf => judge_fault ho hv hp hf

/-- Goes through conditions up to the first that comes to `stop`, which is the answer then. -/
def evaluateUntil (s : Source) (stop : Bool) : List Condition → Outcome Bool
  | [] => .pure !stop
  | c :: cs => (c.evaluate s).bind fun b => if b = stop then .pure stop else evaluateUntil s stop cs

/-- One connective ends with the first condition that is false, and the other with the first that is true. -/
theorem evaluate_and (s : Source) (d? : Option Designator) (v : Option Operand) (cs : List Condition) :
    evaluate s ⟨.and, d?, v, cs⟩ = evaluateUntil s false cs := by
  rw [evaluate]
  induction cs with
  | nil => rfl
  | cons c cs ih =>
    rw [evaluateAll, evaluateUntil, ih]
    congr 1
    funext b
    cases b <;> rfl

theorem evaluate_or (s : Source) (d? : Option Designator) (v : Option Operand) (cs : List Condition) :
    evaluate s ⟨.or, d?, v, cs⟩ = evaluateUntil s true cs := by
  rw [evaluate]
  induction cs with
  | nil => rfl
  | cons c cs ih => rw [evaluateAny, evaluateUntil, ih]

theorem evaluateUntil_proper {s : Source} {stop : Bool} {cs : List Condition}
    (h : ∀ c ∈ cs, (c.evaluate s).Proper) : (evaluateUntil s stop cs).Proper := by
  induction cs with
  | nil => exact Outcome.Proper.pure _
  | cons c cs ih =>
    refine (h c List.mem_cons_self).bind fun b => ?_
    split
    · exact Outcome.Proper.pure stop
    · exact ih fun d hd => h d (List.mem_cons_of_mem c hd)

theorem flaw?_eq_none {c : Condition} (h : c.flaw? = none) :
    c.ownFlaw? = none ∧ (c.isConnective → ∀ d ∈ c.nested, d.flaw? = none) := by
  obtain ⟨o, d, v, cs⟩ := c
  rw [flaw?, Option.or_eq_none_iff] at h
  refine ⟨h.1, fun hc => ?_⟩
  rw [if_pos hc] at h
  exact firstFlaw?_eq_none_iff.mp h.2

/-- Parts of a condition without a flaw have none. -/
theorem Part.flaw?_eq_none {c p : Condition} (hp : c.Part p) (h : c.flaw? = none) : p.flaw? = none := by
  induction hp with
  | self => exact h
  | nested hc hd _ ih => exact ih ((Condition.flaw?_eq_none h).2 hc _ hd)

/-- A condition without a flaw, whose patterns can all be read, fails for the request alone. -/
theorem evaluate_proper {s : Source} (hs : s.finder = none) {c : Condition} (hc : c.flaw? = none)
    (hp : ∀ p, c.Part p → p.PatternReads) : (c.evaluate s).Proper := by
  induction c using Condition.induct with
  | step o d v cs ih =>
    obtain ⟨hown, hnested⟩ := Condition.flaw?_eq_none hc
    have hcs (hconn : (⟨o, d, v, cs⟩ : Condition).isConnective) :
        ∀ c ∈ cs, (c.evaluate s).Proper := by
      intro c hm
      exact ih c hm (hnested hconn c hm) fun p hpart => hp p (.nested hconn hm hpart)
    have htest (hconn : (⟨o, d, v, cs⟩ : Condition).isConnective = false) :
        (evaluateTest s o d v).Proper :=
      evaluateTest_proper hs hown hconn (hp _ (.self _))
    cases o with
    | and => exact evaluate_and s d v cs ▸ evaluateUntil_proper (hcs rfl)
    | or => exact evaluate_or s d v cs ▸ evaluateUntil_proper (hcs rfl)
    | not =>
      cases cs with
      | nil => simp [ownFlaw?] at hown
      | cons c cs => exact (hcs rfl c List.mem_cons_self).negate
    | test t => exact htest rfl
    | notEquals | notWithin | present | absent => exact htest rfl

end Condition

end Arbiter
