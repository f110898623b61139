import Arbiter.Number.Binary64
import Mathlib.Order.Basic
import Mathlib.Tactic.Ring

namespace Arbiter

theorem divNearest_cases (n d : Nat) :
    (divNearest n d = n / d ∧ 2 * (n % d) ≤ d) ∨ (divNearest n d = n / d + 1 ∧ d ≤ 2 * (n % d)) := by
  simp only [divNearest]
  split
  · exact .inl ⟨rfl, by omega⟩
  split
  · exact .inr ⟨rfl, by omega⟩
  rcases Nat.mod_two_eq_zero_or_one (n / d) with h | h <;> rw [h]
  · exact .inl ⟨rfl, by omega⟩
  · exact .inr ⟨rfl, by omega⟩

theorem divNearest_mul (q : Nat) {d : Nat} (hd : 0 < d) : divNearest (q * d) d = q := by
  have hq : q * d / d = q := Nat.mul_div_cancel q hd
  have hr : q * d % d = 0 := Nat.mul_mod_left q d
  rcases divNearest_cases (q * d) d with ⟨h, -⟩ | ⟨-, h⟩ <;> omega

theorem divNearest_mono {n m d : Nat} (h : n ≤ m) : divNearest n d ≤ divNearest m d := by
  have hdiv : n / d ≤ m / d := Nat.div_le_div_right h
  have hn := Nat.div_add_mod n d
  have hm := Nat.div_add_mod m d
  by_cases hsame : n / d = m / d ∧ n % d = m % d
  · rw [divNearest, divNearest, hsame.1, hsame.2]
  · have hmod : n / d = m / d → n % d < m % d := by
      intro heq
      rw [heq] at hn
      omega
    rcases divNearest_cases n d with ⟨hn, hr⟩ | ⟨hn, hr⟩ <;>
      rcases divNearest_cases m d with ⟨hm, hs⟩ | ⟨hm, hs⟩ <;> omega

/-- What is rounded moves by half a step at most. -/
theorem divNearest_close (n : Nat) {d : Nat} (hd : 0 < d) :
    2 * (divNearest n d * d) ≤ 2 * n + d ∧ 2 * n ≤ 2 * (divNearest n d * d) + d := by
  have hn := Nat.div_add_mod' n d
  have hlt := Nat.mod_lt n hd
  rcases divNearest_cases n d with ⟨h, hr⟩ | ⟨h, hr⟩ <;> rw [h]
  · omega
  · rw [Nat.add_mul, Nat.one_mul]
    omega

namespace Binary64

theorem one_eq : one = Nat.pow 2 1074 := by
  unfold one
  rfl

theorem bound_eq : bound = Nat.pow 2 2098 := by
  unfold bound
  rfl

/-- How far neighbouring significands are apart in the magnitude of a number. -/
def spacing (n : Nat) : Nat := 2 ^ (n.log2 - 52)

theorem spacing_pos (n : Nat) : 0 < spacing n := Nat.two_pow_pos _

theorem roundRatio_one (n : Nat) : roundRatio n 1 = divNearest n (spacing n) * spacing n := by
  simp only [roundRatio, Nat.div_one, Nat.one_mul]
  rfl

theorem lt_spacing (n : Nat) : n < 2 ^ 53 * spacing n := by
  calc n < 2 ^ (n.log2 + 1) := Nat.lt_log2_self
    _ ≤ 2 ^ (53 + (n.log2 - 52)) := Nat.pow_le_pow_right (by omega) (by omega)
    _ = 2 ^ 53 * spacing n := Nat.pow_add 2 53 _

/-- A number has 53 bits before those that are rounded away. -/
theorem spacing_le {n : Nat} (h : spacing n ≠ 1) : 2 ^ 52 * spacing n ≤ n := by
  have hlog : 52 ≤ n.log2 := by
    apply Classical.byContradiction
    intro hsmall
    apply h
    rw [spacing, Nat.sub_eq_zero_of_le (by omega), Nat.pow_zero]
  have hn : n ≠ 0 := by
    rintro rfl
    simp at hlog
  calc 2 ^ 52 * spacing n = 2 ^ n.log2 := by rw [spacing, ← Nat.pow_add, Nat.add_sub_cancel' hlog]
    _ ≤ n := Nat.log2_self_le hn

theorem roundRatio_of_dvd {n : Nat} (h : spacing n ∣ n) : roundRatio n 1 = n := by
  obtain ⟨q, hq⟩ := h
  have hn : n = q * spacing n := hq.trans (Nat.mul_comm _ _)
  calc roundRatio n 1 = divNearest (q * spacing n) (spacing n) * spacing n := by
        rw [roundRatio_one]
        congr 2
    _ = n := by rw [divNearest_mul q (spacing_pos n), ← hn]

/-- A number whose significand has 53 bits at most is not rounded. -/
theorem roundRatio_exact {q : Nat} (j : Nat) (hq : q ≤ 2 ^ 53) : roundRatio (q * 2 ^ j) 1 = q * 2 ^ j := by
  apply roundRatio_of_dvd
  by_cases hone : spacing (q * 2 ^ j) = 1
  · rw [hone]
    exact Nat.one_dvd _
  have hle := spacing_le hone
  generalize hn : q * 2 ^ j = n at hone hle
  obtain ⟨e, he⟩ : ∃ e, spacing n = 2 ^ e := ⟨_, rfl⟩
  rw [he] at hle ⊢
  rcases Nat.lt_or_ge j e with hlt | hge
  · -- All 53 bits are used up, and the number is a power of two.
    have hsteps : 2 ^ 53 * 2 ^ j ≤ 2 ^ 52 * 2 ^ e := by
      calc 2 ^ 53 * 2 ^ j = 2 ^ 52 * 2 ^ (j + 1) := by ring
        _ ≤ 2 ^ 52 * 2 ^ e := Nat.mul_le_mul_left _ (Nat.pow_le_pow_right (by omega) hlt)
    have hall : n ≤ 2 ^ 53 * 2 ^ j := hn ▸ Nat.mul_le_mul_right _ hq
    exact ⟨2 ^ 52, by rw [Nat.mul_comm]; omega⟩
  · rw [← hn]
    exact (Nat.pow_dvd_pow 2 hge).trans (Nat.dvd_mul_left _ q)

theorem two_mul_spacing_le {n m : Nat} (h : spacing n < spacing m) : 2 * spacing n ≤ spacing m := by
  have hexp : n.log2 - 52 < m.log2 - 52 := (Nat.pow_lt_pow_iff_right (by omega)).mp h
  calc 2 * spacing n = 2 ^ (n.log2 - 52 + 1) := (Nat.pow_succ' ..).symm
    _ ≤ spacing m := Nat.pow_le_pow_right (by omega) hexp

theorem roundRatio_le_top (n : Nat) : roundRatio n 1 ≤ 2 ^ 53 * spacing n := by
  rw [roundRatio_one]
  apply Nat.mul_le_mul_right
  calc divNearest n (spacing n) ≤ divNearest (2 ^ 53 * spacing n) (spacing n) :=
        divNearest_mono (lt_spacing n).le
    _ = 2 ^ 53 := divNearest_mul _ (spacing_pos n)

theorem bottom_le_roundRatio {n : Nat} (h : spacing n ≠ 1) : 2 ^ 52 * spacing n ≤ roundRatio n 1 := by
  rw [roundRatio_one]
  apply Nat.mul_le_mul_right
  calc 2 ^ 52 = divNearest (2 ^ 52 * spacing n) (spacing n) := (divNearest_mul _ (spacing_pos n)).symm
    _ ≤ divNearest n (spacing n) := divNearest_mono (spacing_le h)

theorem roundRatio_mono {n m : Nat} (h : n ≤ m) : roundRatio n 1 ≤ roundRatio m 1 := by
  rcases Nat.lt_trichotomy (spacing n) (spacing m) with hlt | heq | hgt
  · have hm : spacing m ≠ 1 := by
      have := spacing_pos n
      omega
    calc roundRatio n 1 ≤ 2 ^ 53 * spacing n := roundRatio_le_top n
      _ ≤ 2 ^ 52 * spacing m := by
        have := two_mul_spacing_le hlt
        omega
      _ ≤ roundRatio m 1 := bottom_le_roundRatio hm
  · rw [roundRatio_one, roundRatio_one, heq]
    exact Nat.mul_le_mul_right _ (divNearest_mono h)
  · -- A smaller number does not have the wider spacing.
    have hn : spacing n ≠ 1 := by
      have := spacing_pos m
      omega
    have hbottom := spacing_le hn
    have htop := lt_spacing m
    have hwide := two_mul_spacing_le hgt
    omega

/-- Rounding at most doubles a number. -/
theorem roundRatio_le (n : Nat) : roundRatio n 1 ≤ 2 * n := by
  obtain rfl | hn := Nat.eq_zero_or_pos n
  · decide
  have hclose := (divNearest_close n (spacing_pos n)).1
  have hspacing : spacing n ≤ n := by
    by_cases hone : spacing n = 1
    · omega
    · have := spacing_le hone
      omega
  rw [roundRatio_one]
  omega

section

-- The powers stay variables here, since nothing must compute them.
variable {b c u v : Nat} (hu : u = Nat.pow 2 b) (hv : v = Nat.pow 2 c)

include hu

theorem pow_pos_of_eq : 0 < u := by
  subst hu
  exact Nat.two_pow_pos b

include hv

theorem pow_le_of_eq (h : b ≤ c) : u ≤ v := by
  subst hu hv
  exact Nat.pow_le_pow_right (by omega) h

theorem two_mul_pow_lt {a : Nat} (h : a + b + 1 < c) : 2 * (2 ^ a * u) < v := by
  subst hu hv
  calc 2 * (2 ^ a * Nat.pow 2 b) = 2 ^ (a + b + 1) := by rw [Nat.pow_succ', Nat.pow_add]; rfl
    _ < 2 ^ c := Nat.pow_lt_pow_right (by omega) h

end

/-- Whole numbers of 64 bits are never rounded past the largest double. -/
theorem roundRatio_lt_bound {n : Nat} (h : n ≤ 2 ^ 64) : roundRatio (n * one) 1 < bound := by
  calc roundRatio (n * one) 1 ≤ 2 * (n * one) := roundRatio_le _
    _ ≤ 2 * (2 ^ 64 * one) := Nat.mul_le_mul_left 2 (Nat.mul_le_mul_right _ h)
    _ < bound := two_mul_pow_lt one_eq bound_eq (by omega)

theorem isFinite_ofInt {n : Int} (h : n.natAbs ≤ 2 ^ 64) : (ofInt n).isFinite := by
  rw [ofInt, ofRatio, if_pos (roundRatio_lt_bound h)]
  rfl

theorem exists_one_eq : ∃ j, one = 2 ^ j := by
  have h := one_eq
  generalize 1074 = j at h
  exact ⟨j, h⟩

theorem one_pos : 0 < one := pow_pos_of_eq one_eq

theorem natCast_one_pos : (0 : Int) < one := Int.natCast_pos.mpr one_pos

/-- A whole number of 53 bits is not rounded. -/
theorem roundRatio_whole {n : Nat} (h : n ≤ 2 ^ 53) : roundRatio (n * one) 1 = n * one := by
  obtain ⟨j, hj⟩ := exists_one_eq
  rw [hj]
  exact roundRatio_exact j h

theorem spacing_whole {n : Nat} (h : n < 2 ^ 63) : spacing (n * one) ≤ 1024 * one := by
  obtain ⟨j, hj⟩ := exists_one_eq
  rw [hj]
  have hpos := Nat.two_pow_pos j
  by_cases hone : spacing (n * 2 ^ j) = 1
  · omega
  have hle := spacing_le hone
  obtain ⟨e, he⟩ : ∃ e, spacing (n * 2 ^ j) = 2 ^ e := ⟨_, rfl⟩
  rw [he] at hle ⊢
  have hexp : 52 + e < 63 + j := by
    apply (Nat.pow_lt_pow_iff_right (a := 2) (by omega)).mp
    calc 2 ^ (52 + e) = 2 ^ 52 * 2 ^ e := Nat.pow_add 2 52 e
      _ ≤ n * 2 ^ j := hle
      _ < 2 ^ 63 * 2 ^ j := Nat.mul_lt_mul_of_pos_right h hpos
      _ = 2 ^ (63 + j) := (Nat.pow_add 2 63 j).symm
  calc 2 ^ e ≤ 2 ^ (10 + j) := Nat.pow_le_pow_right (by omega) (by omega)
    _ = 1024 * 2 ^ j := Nat.pow_add 2 10 j

/-- A whole number of 63 bits moves by 512 at most. -/
theorem roundRatio_whole_close {n : Nat} (h : n ≤ 2 ^ 63) :
    roundRatio (n * one) 1 ≤ n * one + 512 * one ∧ n * one ≤ roundRatio (n * one) 1 + 512 * one := by
  rcases Nat.lt_or_eq_of_le h with hlt | rfl
  · have hclose := divNearest_close (n * one) (spacing_pos (n * one))
    rw [← roundRatio_one] at hclose
    have hspacing := spacing_whole hlt
    omega
  · have hexact : roundRatio (2 ^ 63 * one) 1 = 2 ^ 63 * one := by
      obtain ⟨j, hj⟩ := exists_one_eq
      have hpower : 2 ^ 63 * one = 1 * 2 ^ (63 + j) := by rw [hj, Nat.pow_add, Nat.one_mul]
      rw [hpower]
      exact roundRatio_exact (63 + j) (by omega)
    omega

/-- The units that the double next to a whole number counts. -/
def unitsOf (n : Int) : Int :=
  if n < 0 then -(roundRatio (n.natAbs * one) 1 : Nat) else (roundRatio (n.natAbs * one) 1 : Nat)

theorem scaled?_ofInt {n : Int} (h : n.natAbs ≤ 2 ^ 64) : (ofInt n).scaled? = some (unitsOf n) := by
  rw [ofInt, ofRatio, if_pos (roundRatio_lt_bound h), scaled?, unitsOf]
  congr 1
  by_cases hn : n < 0 <;> simp [hn]

theorem unitsOf_exact {n : Int} (h : n.natAbs ≤ 2 ^ 53) : unitsOf n = n * one := by
  rw [unitsOf, roundRatio_whole h]
  split
  · rename_i hn
    rw [Int.natCast_mul, Int.ofNat_natAbs_of_nonpos hn.le, Int.neg_mul, Int.neg_neg]
  · rename_i hn
    rw [Int.natCast_mul, Int.natAbs_of_nonneg (by omega)]

/-- Rounding keeps the order of whole numbers. -/
theorem unitsOf_mono {n m : Int} (h : n ≤ m) : unitsOf n ≤ unitsOf m := by
  have hround {a b : Nat} (hab : a ≤ b) : roundRatio (a * one) 1 ≤ roundRatio (b * one) 1 :=
    roundRatio_mono (Nat.mul_le_mul_right _ hab)
  unfold unitsOf
  split <;> split
  · exact Int.neg_le_neg (Int.ofNat_le.mpr (hround (by omega)))
  · omega
  · omega
  · exact Int.ofNat_le.mpr (hround (by omega))

theorem unitsOf_close {n : Int} (h : n.natAbs ≤ 2 ^ 63) :
    unitsOf n ≤ n * one + 512 * one ∧ n * one ≤ unitsOf n + 512 * one := by
  obtain ⟨hle, hge⟩ := roundRatio_whole_close h
  have hone : ((n.natAbs * one : Nat) : Int) = n.natAbs * (one : Int) := Int.natCast_mul ..
  unfold unitsOf
  split
  · rename_i hn
    rw [Int.ofNat_natAbs_of_nonpos hn.le, Int.neg_mul] at hone
    omega
  · rename_i hn
    rw [Int.natAbs_of_nonneg (by omega)] at hone
    omega

/-- The difference that near numbers stay below, in units. -/
def epsilon : Nat := Nat.pow 2 1022

theorem epsilon_eq : epsilon = Nat.pow 2 1022 := by
  unfold epsilon
  rfl

theorem near_eq {x y : Binary64} {u v : Int} (hx : x.isFinite) (hy : y.isFinite) (hu : x.scaled? = some u)
    (hv : y.scaled? = some v) : x.near y = decide (roundRatio (u - v).natAbs 1 < epsilon) := by
  rw [epsilon_eq]
  cases x with
  | infinite | nan => cases hx
  | finite s a =>
    cases y with
    | infinite | nan => cases hy
    | finite t b => rw [near, hu, hv]

/-- Whole numbers of 53 bits are near only to themselves. -/
theorem near_ofInt_iff {n m : Int} (hn : n.natAbs ≤ 2 ^ 53) (hm : m.natAbs ≤ 2 ^ 53) :
    (ofInt n).near (ofInt m) ↔ n = m := by
  have hn64 : n.natAbs ≤ 2 ^ 64 := by omega
  have hm64 : m.natAbs ≤ 2 ^ 64 := by omega
  rw [near_eq (isFinite_ofInt hn64) (isFinite_ofInt hm64) (scaled?_ofInt hn64) (scaled?_ofInt hm64),
    unitsOf_exact hn, unitsOf_exact hm, ← Int.sub_mul, Int.natAbs_mul, Int.natAbs_natCast, decide_eq_true_iff]
  constructor
  · intro hnear
    apply Classical.byContradiction
    intro hne
    have happart : 1 * one ≤ roundRatio ((n - m).natAbs * one) 1 := by
      rw [← roundRatio_whole (n := 1) (by omega)]
      exact roundRatio_mono (Nat.mul_le_mul_right _ (by omega))
    have hone : epsilon ≤ one := pow_le_of_eq epsilon_eq one_eq (by omega)
    omega
  · rintro rfl
    rw [Int.sub_self, Int.natAbs_zero, Nat.zero_mul]
    exact pow_pos_of_eq epsilon_eq

end Binary64

end Arbiter
