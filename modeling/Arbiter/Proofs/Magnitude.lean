import Arbiter.Proofs.Comparison
import Arbiter.Proofs.Number.Rounding

/-! Comparing whole numbers: for equality as they are, by size as the doubles next to them.

No two whole numbers below 2^53 share a double. Beyond that, two numbers that do are told apart by none of
the comparisons by size, though they are not equal. -/

namespace Arbiter

namespace Binary64

/-- Different whole numbers next to the same double. -/
def Merges (a e : Int) : Prop := a ≠ e ∧ (ofInt a).same (ofInt e)

instance (a e : Int) : Decidable (Merges a e) := inferInstanceAs (Decidable (_ ∧ _))

section

variable {a e : Int} (ha : a.natAbs ≤ 2 ^ 64) (he : e.natAbs ≤ 2 ^ 64)

include ha he

theorem lt_ofInt : (ofInt a).lt (ofInt e) = decide (unitsOf a < unitsOf e) := by
  rw [lt, scaled?_ofInt ha, scaled?_ofInt he]

theorem le_ofInt : (ofInt a).le (ofInt e) = decide (unitsOf a ≤ unitsOf e) := by
  rw [le, scaled?_ofInt ha, scaled?_ofInt he]

theorem merges_iff : Merges a e ↔ a ≠ e ∧ unitsOf a = unitsOf e := by
  rw [Merges, same, scaled?_ofInt ha, scaled?_ofInt he, decide_eq_true_iff]

end

/-- Numbers that do not share a double lie in the order of their doubles. -/
theorem unitsOf_lt_iff {a e : Int} (h : unitsOf a = unitsOf e → a = e) : unitsOf a < unitsOf e ↔ a < e := by
  constructor
  · intro hlt
    apply Int.not_le.mp
    intro hle
    exact absurd (unitsOf_mono hle) (Int.not_le.mpr hlt)
  · intro hlt
    have hle := unitsOf_mono hlt.le
    have hne : unitsOf a ≠ unitsOf e := fun heq => hlt.ne (h heq)
    omega

theorem natAbs_toInt_le (a : Int64) : a.toInt.natAbs ≤ 2 ^ 63 := by
  have hle := a.le_toInt
  have hlt := a.toInt_lt
  omega

theorem merges_toInt_iff (a e : Int64) :
    Merges a.toInt e.toInt ↔ a ≠ e ∧ unitsOf a.toInt = unitsOf e.toInt := by
  have ha := natAbs_toInt_le a
  have he := natAbs_toInt_le e
  rw [merges_iff (by omega) (by omega), Ne, Int64.toInt_inj]

/-- Whole numbers of 53 bits are ordered like their doubles. -/
theorem le_ofInt_iff {a e : Int} (ha : a.natAbs ≤ 2 ^ 53) (he : e.natAbs ≤ 2 ^ 53) :
    (ofInt a).le (ofInt e) ↔ a ≤ e := by
  rw [le_ofInt (by omega) (by omega), decide_eq_true_iff, unitsOf_exact ha, unitsOf_exact he]
  exact Int.mul_le_mul_right natCast_one_pos

/-- No other number shares the double of one below 2^53. -/
theorem eq_of_unitsOf_eq {a e : Int} (ha : a.natAbs < 2 ^ 53) (h : unitsOf a = unitsOf e) : a = e := by
  have hpos := natCast_one_pos
  rcases Int.lt_trichotomy a e with hlt | heq | hgt
  · have hnext : unitsOf (a + 1) ≤ unitsOf e := unitsOf_mono hlt
    rw [← h, unitsOf_exact (n := a) (by omega), unitsOf_exact (n := a + 1) (by omega), Int.add_mul] at hnext
    omega
  · exact heq
  · have hnext : unitsOf e ≤ unitsOf (a - 1) := unitsOf_mono (by omega)
    rw [← h, unitsOf_exact (n := a) (by omega), unitsOf_exact (n := a - 1) (by omega), Int.sub_mul] at hnext
    omega

/-- Only large numbers share a double, and not far from each other. -/
theorem Merges.far {a e : Int64} (h : Merges a.toInt e.toInt) :
    2 ^ 53 ≤ a.toInt.natAbs ∧ 2 ^ 53 ≤ e.toInt.natAbs ∧ (a.toInt - e.toInt).natAbs ≤ 1024 := by
  obtain ⟨hne, hunits⟩ := (merges_toInt_iff a e).mp h
  refine ⟨?_, ?_, ?_⟩
  · apply Nat.le_of_not_lt
    exact fun hsmall => hne (Int64.toInt_inj.mp (eq_of_unitsOf_eq hsmall hunits))
  · apply Nat.le_of_not_lt
    exact fun hsmall => hne (Int64.toInt_inj.mp (eq_of_unitsOf_eq hsmall hunits.symm).symm)
  · have ha := unitsOf_close (natAbs_toInt_le a)
    have he := unitsOf_close (natAbs_toInt_le e)
    rw [hunits] at ha
    have hle : (a.toInt - e.toInt) * one ≤ 1024 * one := by
      rw [Int.sub_mul]
      omega
    have hge : (e.toInt - a.toInt) * one ≤ 1024 * one := by
      rw [Int.sub_mul]
      omega
    rw [Int.mul_le_mul_right natCast_one_pos] at hle hge
    omega

end Binary64

theorem compareNumbers_integers (holds : Binary64 → Binary64 → Bool) (a : Int) (e : Int64) :
    compareNumbers holds (.integer a) (.integer e) = .ok (holds (.ofInt a) (.ofInt e.toInt)) := by
  rw [compareNumbers, Json.toDouble?, Operand.toDouble?]

namespace Test

/-- What a test between whole numbers asks of them. -/
def onIntegers? : Test → Option (Int → Int → Bool)
  | equals => some fun a e => a = e
  | greater => some fun a e => e < a
  | greaterOrEqual => some fun a e => e ≤ a
  | less => some fun a e => a < e
  | lessOrEqual => some fun a e => a ≤ e
  | _ => none

variable {t : Test} {asked : Int → Int → Bool} (ht : t.onIntegers? = some asked)

include ht

/-- The tests by size ask of the doubles. -/
theorem holds_units (hordering : t.isOrdering) (a e : Int64) :
    t.holds (.integer a.toInt) (.integer e) =
      .ok (asked (Binary64.unitsOf a.toInt) (Binary64.unitsOf e.toInt)) := by
  have ha : a.toInt.natAbs ≤ 2 ^ 64 := (Binary64.natAbs_toInt_le a).trans (by omega)
  have he : e.toInt.natAbs ≤ 2 ^ 64 := (Binary64.natAbs_toInt_le e).trans (by omega)
  cases t with
  | greater =>
    cases ht
    rw [holds, compareNumbers_integers, Binary64.lt_ofInt he ha]
  | greaterOrEqual =>
    cases ht
    rw [holds, compareNumbers_integers, Binary64.le_ofInt he ha]
  | less =>
    cases ht
    rw [holds, compareNumbers_integers, Binary64.lt_ofInt ha he]
  | lessOrEqual =>
    cases ht
    rw [holds, compareNumbers_integers, Binary64.le_ofInt ha he]
  | equals | within | contains | startsWith | endsWith | fits => cases hordering

/-- A question about size has the same answer for numbers in the same order. -/
theorem asked_eq {a e a' e' : Int} (hlt : a < e ↔ a' < e') (hgt : e < a ↔ e' < a') :
    asked a e = asked a' e' := by
  cases t with
  | within | contains | startsWith | endsWith | fits => cases ht
  | equals | greater | greaterOrEqual | less | lessOrEqual =>
    cases ht
    rw [decide_eq_decide]
    omega

/-- Between numbers that share no double the test asks of the numbers. -/
theorem holds_exact {a e : Int64} (h : ¬ (t.isOrdering ∧ Binary64.Merges a.toInt e.toInt)) :
    t.holds (.integer a.toInt) (.integer e) = .ok (asked a.toInt e.toInt) := by
  by_cases hordering : t.isOrdering
  · have hshare (hunits : Binary64.unitsOf a.toInt = Binary64.unitsOf e.toInt) : a.toInt = e.toInt := by
      apply Classical.byContradiction
      intro hne
      exact h ⟨hordering, (Binary64.merges_toInt_iff a e).mpr ⟨fun heq => hne (congrArg _ heq), hunits⟩⟩
    rw [holds_units ht hordering, asked_eq ht (Binary64.unitsOf_lt_iff hshare)
      (Binary64.unitsOf_lt_iff fun heq => (hshare heq.symm).symm)]
  · cases t with
    | equals => cases ht; rfl
    | greater | greaterOrEqual | less | lessOrEqual => exact absurd rfl hordering
    | within | contains | startsWith | endsWith | fits => cases ht

/-- Between numbers that share a double a test by size asks as if they were equal. -/
theorem holds_merged {a e : Int64} (hordering : t.isOrdering) (h : Binary64.Merges a.toInt e.toInt) :
    t.holds (.integer a.toInt) (.integer e) = .ok (asked e.toInt e.toInt) := by
  obtain ⟨-, hunits⟩ := (Binary64.merges_toInt_iff a e).mp h
  have hself (n : Int) : asked n n = asked e.toInt e.toInt := asked_eq ht (by simp) (by simp)
  rw [holds_units ht hordering, hunits, hself]

omit ht

/-- One whole number is less than, equal to or greater than another. -/
theorem existsUnique_asked (a e : Int) : ∃! t, t ∈ [less, equals, greater] ∧
    ∃ asked, t.onIntegers? = some asked ∧ asked a e := by
  apply existsUnique_of_exists_of_unique
  · rcases Int.lt_trichotomy a e with hlt | heq | hgt
    · exact ⟨less, by simp, _, rfl, by simpa using hlt⟩
    · exact ⟨equals, by simp, _, rfl, by simpa using heq⟩
    · exact ⟨greater, by simp, _, rfl, by simpa using hgt⟩
  · rintro t t' ⟨ht, asked, hasked, hholds⟩ ⟨ht', asked', hasked', hholds'⟩
    simp only [List.mem_cons, List.not_mem_nil, or_false] at ht ht'
    rcases ht with rfl | rfl | rfl <;> rcases ht' with rfl | rfl | rfl <;> cases hasked <;>
      cases hasked' <;> simp only [decide_eq_true_iff] at hholds hholds' ⊢ <;> omega

/-- The tests find exactly one of these, unless those by size do not tell the numbers apart. -/
theorem existsUnique_holds_iff (a e : Int64) :
    (∃! t, t ∈ [less, equals, greater] ∧ t.holds (.integer a.toInt) (.integer e) = .ok true) ↔
      ¬ Binary64.Merges a.toInt e.toInt := by
  constructor
  · rintro ⟨t, ⟨ht, hholds⟩, -⟩ hmerges
    simp only [List.mem_cons, List.not_mem_nil, or_false] at ht
    rcases ht with rfl | rfl | rfl
    · rw [holds_merged rfl rfl hmerges] at hholds
      simp at hholds
    · rw [holds_exact rfl (by simp [isOrdering])] at hholds
      exact hmerges.1 (by simpa using hholds)
    · rw [holds_merged rfl rfl hmerges] at hholds
      simp at hholds
  · intro hmerges
    have hexact (t : Test) (ht : t ∈ [less, equals, greater]) :
        t.holds (.integer a.toInt) (.integer e) = .ok true ↔
          ∃ asked, t.onIntegers? = some asked ∧ asked a.toInt e.toInt := by
      have hasks : ∃ asked, t.onIntegers? = some asked := by
        simp only [List.mem_cons, List.not_mem_nil, or_false] at ht
        rcases ht with rfl | rfl | rfl <;> exact ⟨_, rfl⟩
      obtain ⟨asked, hasked⟩ := hasks
      simp [holds_exact hasked fun h => hmerges h.2, hasked]
    simp only [and_congr_right (hexact _)]
    exact existsUnique_asked a.toInt e.toInt

end Test

namespace Condition

/-- Whole numbers compare as they are, unless they are large and share a double: then they are not equal, and
the comparisons by size take them to be. -/
theorem compare_integers {s : Source} {d : Designator} {a e : Int64}
    (h : (s.bag d).result = .ok [.integer a.toInt]) :
    let outcome (t : Test) := ((compare t d (.integer e)).evaluate s).result
    (∀ t asked, t.onIntegers? = some asked → ¬ (t.isOrdering ∧ Binary64.Merges a.toInt e.toInt) →
      outcome t = .ok (asked a.toInt e.toInt)) ∧
    ((∃! t, t ∈ [.less, .equals, .greater] ∧ outcome t = .ok true) ↔
      ¬ Binary64.Merges a.toInt e.toInt) ∧
    (Binary64.Merges a.toInt e.toInt →
      (∀ t asked, t.onIntegers? = some asked → t.isOrdering → outcome t = .ok (asked e.toInt e.toInt)) ∧
      2 ^ 53 ≤ a.toInt.natAbs ∧ 2 ^ 53 ≤ e.toInt.natAbs ∧ (a.toInt - e.toInt).natAbs ≤ 1024) := by
  intro outcome
  have houtcome (t : Test) : outcome t = t.holds (.integer a.toInt) (.integer e) :=
    (compare_result h t _).trans (anyHolds_single t _ _)
  simp only [houtcome]
  refine ⟨fun t asked ht => Test.holds_exact ht, Test.existsUnique_holds_iff a e, fun hmerges => ?_⟩
  exact ⟨fun t asked ht hordering => Test.holds_merged ht hordering hmerges, hmerges.far⟩

def quota : Designator := { category := .resource, attributeId := "quota" }

/-- A source with one quota. -/
def ofQuota (v : Json) : Source :=
  { request := { attributes := [{ category := .resource, attributeId := "quota", values := [v] }] } }

/-- Two neighbours beyond 2^53 that round to different doubles. -/
theorem compare_integers_large :
    ((compare .greater quota (.integer 9007199254740993)).evaluate
      (ofQuota (.integer 9007199254740994))).result = .ok true := by
  have h : ((ofQuota (.integer 9007199254740994)).bag quota).result =
      .ok [.integer (9007199254740994 : Int64).toInt] := rfl
  have hapart : ¬ Binary64.Merges (9007199254740994 : Int64).toInt (9007199254740993 : Int64).toInt := by
    decide +kernel
  obtain ⟨hexact, -, -⟩ := compare_integers (e := 9007199254740993) h
  exact hexact .greater _ rfl fun hmerges => hapart hmerges.2

/-- Two neighbours of which neither is greater, though they are not equal. -/
theorem compare_integers_apart :
    let a : Int64 := 9007199254740993
    let e : Int64 := 9007199254740992
    let s := ofQuota (.integer a.toInt)
    let outcome (t : Test) := ((compare t quota (.integer e)).evaluate s).result
    e < a ∧ (s.bag quota).result = .ok [.integer a.toInt] ∧
      (∀ t ∈ [Test.less, .equals, .greater], outcome t = .ok false) ∧
      outcome .greaterOrEqual = .ok true ∧ outcome .lessOrEqual = .ok true := by
  decide +kernel

end Condition

end Arbiter
