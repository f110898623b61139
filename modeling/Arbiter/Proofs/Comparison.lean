import Arbiter.Condition.Evaluation

namespace Arbiter

namespace Test

/-- Whether a test compares by size. -/
def isOrdering : Test → Bool
  | greater | greaterOrEqual | less | lessOrEqual => true
  | _ => false

end Test

theorem compareNumbers_ok {holds : Binary64 → Binary64 → Bool} {a : Json} {b : Operand} {c : Bool}
    (h : compareNumbers holds a b = .ok c) : a.toDouble?.isSome ∧ b.toDouble?.isSome := by
  unfold compareNumbers at h
  split at h
  · rename_i x y hx hy
    simp [hx, hy]
  · cases h

theorem compareNumbers_error {holds : Binary64 → Binary64 → Bool} {a : Json} {b : Operand} {f : Fault}
    (h : compareNumbers holds a b = .error f) :
    f = .notNumeric ∧ (b.toDouble?.isSome → a.toDouble? = none) := by
  unfold compareNumbers at h
  split at h
  · cases h
  · rename_i hnone
    refine ⟨(Except.error.inj h).symm, fun hb => ?_⟩
    obtain ⟨y, hy⟩ := Option.isSome_iff_exists.mp hb
    cases hx : a.toDouble? with
    | none => rfl
    | some x => exact absurd hy (hnone x y hx)

theorem matchText_error {a : Json} {b : Operand} {f : Fault} (h : matchText a b = .error f) :
    ∃ text, b = .string text ∧ Pattern.ofText? text = none ∧ f = .badPattern text := by
  unfold matchText at h
  split at h
  · rename_i text
    split at h
    · cases h
    · rename_i hp
      exact ⟨text, rfl, hp, (Except.error.inj h).symm⟩
  · cases h

theorem matchText_ok_true {a : Json} {text : String} (h : matchText a (.string text) = .ok true) :
    (Pattern.ofText? text).isSome := by
  cases hp : Pattern.ofText? text with
  | some p => rfl
  | none =>
    unfold matchText at h
    split at h
    · rename_i heq
      cases heq
      simp [hp] at h
    · cases h

namespace Test

variable {t : Test} {b : Operand}

/-- A test that fails does so for the same reason with every value. -/
theorem holds_fault_eq {a a' : Json} {f f' : Fault} (h : t.holds a b = .error f)
    (h' : t.holds a' b = .error f') : f = f' := by
  cases t with
  | greater | greaterOrEqual | less | lessOrEqual =>
    rw [(compareNumbers_error h).1, (compareNumbers_error h').1]
  | fits =>
    obtain ⟨text, rfl, -, rfl⟩ := matchText_error h
    obtain ⟨text', heq, -, rfl⟩ := matchText_error h'
    rw [Operand.string.inj heq]
  | equals | within | contains | startsWith | endsWith => cases h

/-- Of two values, one can pass and one fail the test only by being a number and none. -/
theorem holds_torn {a a' : Json} {f : Fault} (h : t.holds a b = .ok true)
    (h' : t.holds a' b = .error f) :
    f = .notNumeric ∧ t.isOrdering ∧ a.toDouble?.isSome ∧ a'.toDouble? = none := by
  cases t with
  | greater | greaterOrEqual | less | lessOrEqual =>
    obtain ⟨ha, hb⟩ := compareNumbers_ok h
    obtain ⟨hf, ha'⟩ := compareNumbers_error h'
    exact ⟨hf, rfl, ha, ha' hb⟩
  | fits =>
    obtain ⟨text, rfl, hp, -⟩ := matchText_error h'
    have hsome := matchText_ok_true h
    rw [hp] at hsome
    cases hsome
  | equals | within | contains | startsWith | endsWith => cases h'

end Test

/-- The loop over a bag goes to its end, or it ends with the result of some value. -/
theorem anyHolds_cases (t : Test) (b : Operand) (bag : List Json) :
    (anyHolds t b bag = .ok false ∧ ∀ a ∈ bag, t.holds a b = .ok false) ∨
      ∃ a ∈ bag, anyHolds t b bag = t.holds a b ∧ t.holds a b ≠ .ok false := by
  induction bag with
  | nil => exact .inl ⟨rfl, fun _ h => absurd h List.not_mem_nil⟩
  | cons a as ih =>
    by_cases ha : t.holds a b = .ok false
    · have hskip : anyHolds t b (a :: as) = anyHolds t b as := by rw [anyHolds, ha]
      rw [hskip]
      rcases ih with ⟨hend, hall⟩ | ⟨a', ha', hstop⟩
      · exact .inl ⟨hend, List.forall_mem_cons.mpr ⟨ha, hall⟩⟩
      · exact .inr ⟨a', List.mem_cons_of_mem a ha', hstop⟩
    · refine .inr ⟨a, List.mem_cons_self, ?_, ha⟩
      rw [anyHolds]
      split
      · exact absurd ‹_› ha
      · rfl

/-- A test that never fails holds of a bag if it holds of some value. -/
theorem anyHolds_of_total {t : Test} {b : Operand} {p : Json → Bool} (h : ∀ a, t.holds a b = .ok (p a))
    (bag : List Json) : anyHolds t b bag = .ok (bag.any p) := by
  induction bag with
  | nil => rfl
  | cons a as ih =>
    rw [anyHolds, h a, List.any_cons]
    cases p a with
    | false => exact ih
    | true => rfl

theorem anyHolds_single (t : Test) (b : Operand) (a : Json) : anyHolds t b [a] = t.holds a b := by
  rw [anyHolds]
  split
  · rename_i h
    exact h.symm
  · rfl

/-- A comparison goes through the values of its bag. -/
theorem Condition.compare_result {s : Source} {d : Designator} {bag : List Json}
    (h : (s.bag d).result = .ok bag) (t : Test) (b : Operand) :
    ((compare t d b).evaluate s).result = anyHolds t b bag := by
  simp only [compare, evaluate, evaluateTest, Outcome.bind, h]
  rfl

end Arbiter
