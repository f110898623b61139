import Arbiter.Number.Decimal
import Arbiter.Proofs.Number.Rounding

namespace Arbiter

theorem divNearest_eq_of_close {n d q : Nat} (hd : 0 < d) (hlow : 2 * (q * d) < 2 * n + d)
    (hhigh : 2 * n < 2 * (q * d) + d) : divNearest n d = q := by
  obtain ⟨hup, hdown⟩ := divNearest_close n hd
  generalize divNearest n d = m at hup hdown
  have hle : m < q + 1 := by
    apply Nat.lt_of_mul_lt_mul_right (a := d)
    rw [Nat.add_mul, Nat.one_mul]
    omega
  have hge : q < m + 1 := by
    apply Nat.lt_of_mul_lt_mul_right (a := d)
    rw [Nat.add_mul, Nat.one_mul]
    omega
  omega

theorem divNearest_mul_mul (n d : Nat) {k : Nat} (hk : 0 < k) :
    divNearest (n * k) (d * k) = divNearest n d := by
  have hdiv : n * k / (d * k) = n / d := Nat.mul_div_mul_right n d hk
  have hmod : n * k % (d * k) = n % d * k := Nat.mul_mod_mul_right k n d
  have hlt (a b : Nat) : a * k < b * k ↔ a < b := Nat.mul_lt_mul_right hk
  simp only [divNearest, hdiv, hmod, ← Nat.mul_assoc, hlt]

namespace Binary64

theorem roundRatio_mul_mul (n d : Nat) {k : Nat} (hk : 0 < k) :
    roundRatio (n * k) (d * k) = roundRatio n d := by
  simp only [roundRatio, Nat.mul_div_mul_right n d hk, Nat.mul_right_comm d k, divNearest_mul_mul _ _ hk]

/-- Whether there is a finite number of so many units. -/
structure IsCount (u : Nat) : Prop where
  exact : roundRatio u 1 = u
  finite : u < bound

/-- A number is a significand of 53 bits and a power of two, all 53 of which are used unless it is a whole
number of the least units. -/
theorem exists_significand {u : Nat} (hu : roundRatio u 1 = u) :
    ∃ q e, u = q * 2 ^ e ∧ q < 2 ^ 53 ∧ (e = 0 ∨ 2 ^ 52 ≤ q) := by
  have hfront := lt_spacing u
  have hpos := spacing_pos u
  obtain ⟨q, hq⟩ : ∃ q, u = q * spacing u := ⟨_, (roundRatio_one u ▸ hu).symm⟩
  refine ⟨q, u.log2 - 52, hq, ?_, ?_⟩
  · apply Nat.lt_of_mul_lt_mul_right (a := spacing u)
    rwa [← hq]
  · by_cases hone : spacing u = 1
    · refine .inl ?_
      apply Classical.byContradiction
      intro hne
      have htwo : 1 < spacing u := Nat.one_lt_two_pow hne
      omega
    · refine .inr (Nat.le_of_mul_le_mul_right ?_ hpos)
      rw [← hq]
      exact spacing_le hone

/-- The bits of a quotient that come after the first 53 of them. -/
theorem shift_eq {n d e : Nat} (hd : 0 < d) (hall : e = 0 ∨ 2 ^ 52 * (d * 2 ^ e) ≤ n)
    (hn : n < 2 ^ 53 * (d * 2 ^ e)) : (n / d).log2 - 52 = e := by
  have hupper : n / d < 2 ^ (53 + e) := by
    apply Nat.div_lt_of_lt_mul
    rwa [Nat.pow_add, Nat.mul_left_comm]
  obtain hzero | hne := Nat.eq_zero_or_pos (n / d)
  · have he : e = 0 := hall.resolve_right fun hle => by
      have hlt : n < d := Nat.lt_of_div_eq_zero hd hzero
      have hde : d * 1 ≤ d * 2 ^ e := Nat.mul_le_mul_left d (Nat.two_pow_pos e)
      omega
    rw [hzero, he]
    rfl
  have hlog := (Nat.log2_lt (Nat.pos_iff_ne_zero.mp hne)).mpr hupper
  rcases hall with rfl | hall
  · omega
  · have hlower : 2 ^ (52 + e) ≤ n / d := by
      apply (Nat.le_div_iff_mul_le hd).mpr
      rwa [Nat.pow_add, Nat.mul_assoc, Nat.mul_comm _ d]
    have hlog' := (Nat.le_log2 (Nat.pos_iff_ne_zero.mp hne)).mpr hlower
    omega

/-- What is as close to a number as its 54th bit is rounded to it. -/
theorem roundRatio_eq_of_close {u n d : Nat} (hd : 0 < d) (hu : roundRatio u 1 = u)
    (hlow : u * d * 2 ^ 54 < n * 2 ^ 54 + u * d) (hhigh : n * 2 ^ 54 < u * d * 2 ^ 54 + u * d) :
    roundRatio n d = u := by
  obtain ⟨q, e, rfl, hq, hall⟩ := exists_significand hu
  have hround {q e : Nat} (hshift : (n / d).log2 - 52 = e) (hclose : divNearest n (d * 2 ^ e) = q) :
      roundRatio n d = q * 2 ^ e := by
    subst hshift
    exact congrArg (· * _) hclose
  have hud : q * 2 ^ e * d = q * (d * 2 ^ e) := by ring
  have hpos : 0 < d * 2 ^ e := Nat.mul_pos hd (Nat.two_pow_pos e)
  have hqe : (q + 1) * (d * 2 ^ e) ≤ 2 ^ 53 * (d * 2 ^ e) := Nat.mul_le_mul_right _ hq
  rw [Nat.add_mul, Nat.one_mul] at hqe
  rw [hud] at hlow hhigh
  have hn : n < 2 ^ 53 * (d * 2 ^ e) := by omega
  by_cases hbits : e = 0 ∨ 2 ^ 52 * (d * 2 ^ e) ≤ n
  · exact hround (shift_eq hd hbits hn) (divNearest_eq_of_close hpos (by omega) (by omega))
  · -- Just below a power of two the bits are half as wide.
    obtain ⟨he, hbelow⟩ := not_or.mp hbits
    obtain ⟨e, rfl⟩ := Nat.exists_eq_add_one_of_ne_zero he
    have hwide : d * 2 ^ (e + 1) = 2 * (d * 2 ^ e) := by ring
    have hqeq : q = 2 ^ 52 := by
      have hge := hall.resolve_left he
      apply Classical.byContradiction
      intro hne
      have hmore : (2 ^ 52 + 1) * (d * 2 ^ (e + 1)) ≤ q * (d * 2 ^ (e + 1)) :=
        Nat.mul_le_mul_right _ (by omega)
      omega
    subst hqeq
    rw [hwide] at hlow hhigh hbelow hpos
    have hshift : (n / d).log2 - 52 = e := shift_eq hd (.inr (by omega)) (by omega)
    rw [hround (q := 2 ^ 53) hshift (divNearest_eq_of_close (by omega) (by omega) (by omega))]
    ring

theorem ofRatio_mul_mul (negative : Bool) (n d : Nat) {k : Nat} (hk : 0 < k) :
    ofRatio negative (n * k) (d * k) = ofRatio negative n d := by
  rw [ofRatio, roundRatio_mul_mul n d hk, ofRatio]

/-- Rounding leaves 53 bits, and so it has nothing to do a second time. -/
theorem isCount_roundRatio {n d : Nat} (hd : 0 < d) (h : roundRatio n d < bound) :
    IsCount (roundRatio n d) := by
  refine ⟨?_, h⟩
  unfold roundRatio
  apply roundRatio_exact
  obtain ⟨e, he⟩ : ∃ e, e = (n / d).log2 - 52 := ⟨_, rfl⟩
  have hpos : 0 < d * Nat.pow 2 e := Nat.mul_pos hd (Nat.two_pow_pos e)
  have hfront : n / d < 2 ^ (53 + e) :=
    calc n / d < 2 ^ ((n / d).log2 + 1) := Nat.lt_log2_self
      _ ≤ 2 ^ (53 + e) := Nat.pow_le_pow_right (by omega) (by omega)
  have hle : n ≤ 2 ^ 53 * (d * Nat.pow 2 e) := by
    have hlt := (Nat.div_lt_iff_lt_mul hd).mp hfront
    rw [Nat.pow_add, Nat.mul_assoc, Nat.mul_comm _ d] at hlt
    exact hlt.le
  rw [← he]
  exact (divNearest_mono hle).trans_eq (divNearest_mul _ hpos)

theorem isCount_zero : IsCount 0 := ⟨by decide, pow_pos_of_eq bound_eq⟩

/-- The numbers of the format. Another count of units would have to be rounded. -/
inductive InFormat : Binary64 → Prop
  | finite (negative : Bool) {u : Nat} : IsCount u → InFormat (.finite negative u)
  | infinite (negative : Bool) : InFormat (.infinite negative)
  | nan : InFormat .nan

theorem inFormat_ofRatio (negative : Bool) (n : Nat) {d : Nat} (hd : 0 < d) :
    (ofRatio negative n d).InFormat := by
  by_cases h : roundRatio n d < bound
  · rw [ofRatio, if_pos h]
    exact .finite negative (isCount_roundRatio hd h)
  · rw [ofRatio, if_neg h]
    exact .infinite negative

theorem inFormat_ofNat (n : Nat) : (ofNat n).InFormat := inFormat_ofRatio false (n * one) Nat.one_pos

theorem InFormat.neg {x : Binary64} (h : x.InFormat) : x.neg.InFormat := by
  cases h with
  | finite negative hu => exact .finite _ hu
  | infinite negative => exact .infinite _
  | nan => exact .nan

theorem inFormat_mul (x y : Binary64) : (x.mul y).InFormat := by
  cases x with
  | nan => cases y <;> exact .nan
  | finite s a =>
    cases y with
    | nan => exact .nan
    | finite t b =>
      rw [mul]
      exact inFormat_ofRatio (s != t) (a * b) one_pos
    | infinite t =>
      simp only [mul]
      split
      · exact .nan
      · exact .infinite _
  | infinite s =>
    cases y with
    | nan => exact .nan
    | infinite t => exact .infinite _
    | finite t b =>
      simp only [mul]
      split
      · exact .nan
      · exact .infinite _

theorem inFormat_div (x y : Binary64) : (x.div y).InFormat := by
  cases x with
  | nan => cases y <;> exact .nan
  | infinite s =>
    cases y with
    | nan => exact .nan
    | infinite t => exact .nan
    | finite t b => exact .infinite _
  | finite s a =>
    cases y with
    | nan => exact .nan
    | infinite t => exact .finite _ isCount_zero
    | finite t b =>
      by_cases hb : b = 0
      · simp only [div, if_pos hb]
        split
        · exact .nan
        · exact .infinite _
      · simp only [div, if_neg hb]
        exact inFormat_ofRatio (s != t) (a * one) (Nat.pos_iff_ne_zero.mpr hb)

end Binary64

namespace Decimal

theorem inFormat_scale {x : Binary64} (h : x.InFormat) (e : Int) : (scale x e).InFormat := by
  fun_induction scale x e with
  | case1 => exact h
  | case2 => exact .infinite _
  | case3 => exact Binary64.inFormat_mul ..
  | case4 => exact Binary64.inFormat_div ..
  | case5 x e _ _ _ _ ih => exact ih (Binary64.inFormat_div ..)

/-- Reading yields numbers of the format only, even where it does not yield the nearest one. -/
theorem inFormat_scaled (d : Decimal) : d.scaled.InFormat := by
  unfold scaled
  dsimp only
  split
  · exact (inFormat_scale (Binary64.inFormat_ofNat _) _).neg
  · exact inFormat_scale (Binary64.inFormat_ofNat _) _

theorem digitCount_le_iff {n k : Nat} (hk : 0 < k) : digitCount n ≤ k ↔ n < 10 ^ k :=
  Nat.length_toDigits_le_iff (by omega) hk

theorem digitCount_pos (n : Nat) : 0 < digitCount n := Nat.length_toDigits_pos

theorem digitCount_mul_ten {n : Nat} (hn : 0 < n) : digitCount (n * 10) = digitCount n + 1 := by
  have hdigits := Nat.toDigits_append_toDigits (b := 10) (d := 0) (by omega) hn (by omega)
  rw [Nat.add_zero, Nat.mul_comm] at hdigits
  rw [digitCount, ← hdigits, List.length_append, Nat.toDigits_zero]
  rfl

/-- A zero that is appended changes nothing, if the power makes up for it. -/
theorem nearestScaled_mul_ten (negative : Bool) (n : Nat) (e : Int) :
    nearestScaled negative (n * 10) (e - 1) = nearestScaled negative n e := by
  obtain rfl | hn := Nat.eq_zero_or_pos n
  · rfl
  have hsize : e - 1 + ((digitCount n + 1 : Nat) : Int) = e + digitCount n := by omega
  unfold nearestScaled
  rw [digitCount_mul_ten hn, hsize, if_neg (show ¬ n * 10 = 0 by omega), if_neg (show ¬ n = 0 by omega)]
  split
  · rfl
  split
  · rfl
  rcases Int.lt_trichotomy e 0 with he | rfl | he
  · have hpower : (-(e - 1)).toNat = (-e).toNat + 1 := by omega
    rw [if_neg (by omega), if_neg (by omega), hpower, Nat.pow_eq, Nat.pow_eq, Nat.pow_succ,
      Nat.mul_right_comm]
    exact Binary64.ofRatio_mul_mul negative _ _ (by omega)
  · have hscaled := Binary64.ofRatio_mul_mul negative (n * Binary64.one) 1 (k := 10) (by omega)
    rw [Nat.mul_right_comm, Nat.one_mul] at hscaled
    simpa using hscaled
  · have hpower : e.toNat = (e - 1).toNat + 1 := by omega
    rw [if_pos (by omega), if_pos (by omega), hpower, Nat.pow_eq, Nat.pow_eq, Nat.pow_succ,
      Nat.mul_assoc n 10, Nat.mul_comm 10]

theorem nearestScaled_mul_pow (negative : Bool) (n : Nat) (e : Int) (k : Nat) :
    nearestScaled negative (n * 10 ^ k) (e - k) = nearestScaled negative n e := by
  induction k with
  | zero => simp
  | succ k ih =>
    have he : e - ((k + 1 : Nat) : Int) = e - k - 1 := by omega
    rw [he, Nat.pow_succ, ← Nat.mul_assoc, nearestScaled_mul_ten, ih]

end Decimal

end Arbiter
