import Arbiter.Number.Shortest
import Arbiter.Proofs.Json.Text
import Arbiter.Proofs.Number.Nearest
import Mathlib.Data.List.DropRight

namespace Arbiter

namespace Digits

open Binary64 (one one_pos IsCount)

-- The exponents stay variables here, since nothing must compute the powers.

theorem one_le_pow : ∃ k, k = 324 ∧ one ≤ 10 ^ k := ⟨324, rfl, by decide +kernel⟩

theorem bound_le_pow : ∃ k, k = 309 ∧ Binary64.bound ≤ 10 ^ k * one := ⟨309, rfl, by decide +kernel⟩

theorem leadingPlace_spec (u tries k : Nat) (h : one ≤ u * 10 ^ (k + tries)) :
    one ≤ u * 10 ^ leadingPlace u tries k ∧ k ≤ leadingPlace u tries k ∧
      ∀ j, k ≤ j → j < leadingPlace u tries k → u * 10 ^ j < one := by
  induction tries generalizing k with
  | zero => exact ⟨h, Nat.le_refl k, fun j hj hlt => absurd hlt (Nat.not_lt.mpr hj)⟩
  | succ tries ih =>
    unfold leadingPlace
    rw [Nat.pow_eq]
    split
    · rename_i hk
      exact ⟨hk, Nat.le_refl k, fun j hj hlt => absurd hlt (Nat.not_lt.mpr hj)⟩
    · rename_i hk
      obtain ⟨hle, hfrom, hbefore⟩ := ih (k + 1) (by rwa [Nat.add_right_comm, Nat.add_assoc])
      refine ⟨hle, by omega, fun j hj hlt => ?_⟩
      obtain rfl | hne := Nat.eq_or_lt_of_le hj
      · exact Nat.lt_of_not_le hk
      · exact hbefore j hne hlt

/-- What `u` units come to in steps of `10 ^ p` has its first digit `count` places before the point. -/
def Reaches (u : Nat) (p : Int) (count : Nat) : Prop :=
  (quotient u p).2 * 10 ^ count ≤ (quotient u p).1 ∧
    (quotient u p).1 < (quotient u p).2 * 10 ^ (count + 1)

theorem quotient_pos (u : Nat) (p : Int) : 0 < (quotient u p).2 := by
  have hpos := one_pos
  unfold quotient
  generalize one = o at hpos ⊢
  split
  · exact Nat.mul_pos hpos (Nat.pow_pos (by omega))
  · exact hpos

/-- Steps that are ten times finer. -/
theorem quotient_pred (u : Nat) (p : Int) :
    ((quotient u (p - 1)).1 = (quotient u p).1 ∧ (quotient u p).2 = (quotient u (p - 1)).2 * 10) ∨
      ((quotient u (p - 1)).1 = (quotient u p).1 * 10 ∧ (quotient u (p - 1)).2 = (quotient u p).2) := by
  unfold quotient
  generalize one = o
  rcases Int.lt_trichotomy p 0 with hp | rfl | hp
  · have hpower : (-(p - 1)).toNat = (-p).toNat + 1 := by omega
    rw [if_neg (by omega), if_neg (by omega), hpower]
    exact .inr ⟨(Nat.mul_assoc ..).symm, rfl⟩
  · exact .inr ⟨rfl, (Nat.mul_one o).symm⟩
  · have hpower : p.toNat = (p - 1).toNat + 1 := by omega
    rw [if_pos (by omega), if_pos (by omega), hpower]
    exact .inl ⟨rfl, (Nat.mul_assoc ..).symm⟩

theorem Reaches.pred {u : Nat} {p : Int} {count : Nat} (h : Reaches u p count) :
    Reaches u (p - 1) (count + 1) := by
  obtain ⟨hlow, hhigh⟩ := h
  unfold Reaches
  rcases quotient_pred u p with ⟨hn, hd⟩ | ⟨hn, hd⟩
  · rw [hd, Nat.mul_assoc, ← Nat.pow_succ'] at hlow hhigh
    rw [hn]
    exact ⟨hlow, hhigh⟩
  · rw [hn, hd, Nat.pow_succ, Nat.pow_succ _ (count + 1), ← Nat.mul_assoc, ← Nat.mul_assoc]
    exact ⟨Nat.mul_le_mul_right 10 hlow, Nat.mul_lt_mul_of_pos_right hhigh (by omega)⟩

theorem Reaches.sub {u : Nat} {top : Int} (h : Reaches u top 0) (k : Nat) : Reaches u (top - k) k := by
  induction k with
  | zero => simpa using h
  | succ k ih =>
    have hk : top - ((k + 1 : Nat) : Int) = top - k - 1 := by omega
    rw [hk]
    exact ih.pred

/-- The first digit stands where the magnitude says, and within the range of the format. -/
theorem reaches_magnitude {u : Nat} (hpos : 0 < u) (hu : u < Binary64.bound) :
    Reaches u (magnitude u) 0 ∧ -324 ≤ magnitude u ∧ magnitude u ≤ 308 := by
  have hone := one_pos
  obtain ⟨least, hl, hleast⟩ := one_le_pow
  obtain ⟨greatest, hg, hgreatest⟩ := bound_le_pow
  have hgreatest := Nat.lt_of_lt_of_le hu hgreatest
  have hleading := leadingPlace_spec u 330 1
  unfold magnitude Reaches quotient
  generalize one = o at hone hleast hgreatest hleading ⊢
  generalize htries : 330 = tries at hleading ⊢
  split
  · rename_i hge
    have hcount : Decimal.digitCount (u / o) ≤ greatest :=
      (Decimal.digitCount_le_iff (by omega)).mpr ((Nat.div_lt_iff_lt_mul hone).mpr hgreatest)
    obtain ⟨k, hk⟩ : ∃ k, Decimal.digitCount (u / o) = k + 1 :=
      Nat.exists_eq_add_one_of_ne_zero (Nat.pos_iff_ne_zero.mp (Decimal.digitCount_pos _))
    have hplace : ((k + 1 : Nat) : Int) - 1 = (k : Nat) := by omega
    have hlow : 10 ^ k ≤ u / o := by
      obtain rfl | hk0 := Nat.eq_zero_or_pos k
      · exact (Nat.one_le_div_iff hone).mpr hge
      · refine Nat.le_of_not_lt fun hlt => ?_
        have hfew := (Decimal.digitCount_le_iff hk0).mpr hlt
        omega
    have hhigh : u / o < 10 ^ (k + 1) := (Decimal.digitCount_le_iff (by omega)).mp hk.le
    rw [hk, hplace, if_pos (Int.natCast_nonneg k), Int.toNat_natCast, Nat.pow_eq]
    have hlow' := (Nat.le_div_iff_mul_le hone).mp hlow
    have hhigh' := (Nat.div_lt_iff_lt_mul hone).mp hhigh
    rw [Nat.mul_comm] at hlow' hhigh'
    refine ⟨⟨?_, ?_⟩, by omega, by omega⟩
    · simpa using hlow'
    · simpa [Nat.mul_assoc, Nat.pow_succ] using hhigh'
  · rename_i hlt
    have henough : o ≤ u * 10 ^ (1 + tries) := by
      refine (hleast.trans ?_).trans (Nat.le_mul_of_pos_left _ hpos)
      exact Nat.pow_le_pow_right (by omega) (by omega)
    obtain ⟨hle, hfrom, hbefore⟩ := hleading henough
    generalize leadingPlace u tries 1 = k at hle hfrom hbefore ⊢
    have hfew : k ≤ least := by
      refine Nat.le_of_not_lt fun hmany => ?_
      have hsmall := hbefore least (by omega) hmany
      have hlarge : 10 ^ least ≤ u * 10 ^ least := Nat.le_mul_of_pos_left _ hpos
      omega
    obtain ⟨j, rfl⟩ := Nat.exists_eq_add_one_of_ne_zero (show k ≠ 0 by omega)
    have hjust : u * 10 ^ j < o := by
      obtain rfl | hj := Nat.eq_zero_or_pos j
      · simpa using hlt
      · exact hbefore j hj (by omega)
    have hplace : (- -((j + 1 : Nat) : Int)).toNat = j + 1 := by omega
    rw [if_neg (by omega), hplace, Nat.pow_eq]
    refine ⟨⟨?_, ?_⟩, by omega, by omega⟩
    · simpa using hle
    · rw [Nat.pow_succ, ← Nat.mul_assoc]
      exact Nat.mul_lt_mul_of_pos_right hjust (by omega)

/-- What is read of a place on a grid is a single quotient, rounded. -/
theorem exists_ofRatio (u m : Nat) (p : Int) (negative : Bool) :
    ∃ k, 0 < k ∧ (quotient u p).1 = u * k ∧
      (if 0 ≤ p then Binary64.ofRatio negative (m * Nat.pow 10 p.toNat * one) 1
        else Binary64.ofRatio negative (m * one) (Nat.pow 10 (-p).toNat)) =
        Binary64.ofRatio negative (m * (quotient u p).2) k := by
  unfold quotient
  generalize one = o
  split
  · exact ⟨1, Nat.one_pos, (Nat.mul_one u).symm, by rw [Nat.mul_assoc, Nat.mul_comm o]⟩
  · exact ⟨_, Nat.pow_pos (by omega), rfl, rfl⟩

/-- The nearest place on a grid of 17 digits is read as the number itself. -/
theorem nearestScaled_of_close {u m : Nat} {p : Int} (hu : IsCount u) (hr : Reaches u p 16)
    (hp : -340 ≤ p ∧ p ≤ 292)
    (hclose : 2 * (m * (quotient u p).2) ≤ 2 * (quotient u p).1 + (quotient u p).2 ∧
      2 * (quotient u p).1 ≤ 2 * (m * (quotient u p).2) + (quotient u p).2) (negative : Bool) :
    Decimal.nearestScaled negative m p = .finite negative u := by
  obtain ⟨k, hk, hn, hread⟩ := exists_ofRatio u m p negative
  have hd := quotient_pos u p
  obtain ⟨hlow, hhigh⟩ := hr
  have hm : 10 ^ 16 ≤ m := by
    have hle : 2 * 10 ^ 16 * (quotient u p).2 ≤ (2 * m + 1) * (quotient u p).2 := by
      rw [Nat.add_mul, Nat.one_mul, Nat.mul_assoc 2 m]
      omega
    have := Nat.le_of_mul_le_mul_right hle hd
    omega
  have hm' : m ≤ 10 ^ 17 := by
    have hlt : 2 * m * (quotient u p).2 < (2 * 10 ^ 17 + 1) * (quotient u p).2 := by
      rw [Nat.mul_assoc 2 m]
      omega
    have := Nat.lt_of_mul_lt_mul_right hlt
    omega
  have hmany : ¬ Decimal.digitCount m ≤ 16 := by
    rw [Decimal.digitCount_le_iff (by omega)]
    omega
  have hfew : Decimal.digitCount m ≤ 18 := (Decimal.digitCount_le_iff (by omega)).mpr (by omega)
  rw [hn] at hlow hclose
  have hround : Binary64.roundRatio (m * (quotient u p).2) k = u :=
    Binary64.roundRatio_eq_of_close hk hu.exact (by omega) (by omega)
  unfold Decimal.nearestScaled
  rw [if_neg (by omega), if_neg (by omega), if_neg (by omega), hread, Binary64.ofRatio, hround,
    if_pos hu.finite]

/-- The first of two that will do. -/
theorem of_tried {P : Nat → Prop} [DecidablePred P] {a b m : Nat}
    (h : (if P a then some a else if P b then some b else none) = some m) : P m := by
  split at h
  · rename_i ha
    exact Option.some.inj h ▸ ha
  split at h
  · rename_i hb
    exact Option.some.inj h ▸ hb
  · cases h

theorem readsBack_of_onGrid? {u m : Nat} {p : Int} (h : onGrid? u p = some m) :
    Decimal.nearestScaled false m p = .finite false u :=
  of_tried (P := fun m => Decimal.nearestScaled false m p = .finite false u) h

theorem onGrid?_ne_none {u : Nat} {p : Int}
    (h : Decimal.nearestScaled false (divNearest (quotient u p).1 (quotient u p).2) p = .finite false u) :
    onGrid? u p ≠ none := by
  simp only [onGrid?, if_pos h]
  exact Option.some_ne_none _

/-- The search ends at 17 digits. -/
theorem search_readsBack {u : Nat} (hpos : 0 < u) (hu : IsCount u) {tries count : Nat}
    (hcount : count + tries = 18) (htries : 0 < tries) :
    Decimal.nearestScaled false (search u (magnitude u) tries count).1
      (search u (magnitude u) tries count).2 = .finite false u := by
  induction tries generalizing count with
  | zero => exact absurd htries (Nat.lt_irrefl 0)
  | succ tries ih =>
    cases hgrid : onGrid? u (magnitude u - count + 1) with
    | some m =>
      simp only [search, hgrid]
      exact readsBack_of_onGrid? hgrid
    | none =>
      simp only [search, hgrid]
      obtain rfl | htries := Nat.eq_zero_or_pos tries
      · obtain ⟨hreaches, hleast, hgreatest⟩ := reaches_magnitude hpos hu.finite
        have hplace : magnitude u - count + 1 = magnitude u - (16 : Nat) := by omega
        rw [hplace] at hgrid
        refine absurd hgrid (onGrid?_ne_none ?_)
        exact nearestScaled_of_close hu (hreaches.sub 16) (by omega)
          (divNearest_close _ (quotient_pos ..)) false
      · exact ih (by omega) htries

/-- The significand as a whole number. -/
def significand (d : Digits) : Nat := Decimal.ofDigits (d.digits.map digitValue)

/-- What is trimmed is zeros, and the power of ten makes up for them. -/
theorem exists_trim (ds : List Char) (e : Int) :
    ∃ zeros : Nat, ds = (trim ds e).digits ++ List.replicate zeros '0' ∧
      (trim ds e).exponent = e + zeros := by
  obtain ⟨xs, rfl⟩ : ∃ xs : List Char, ds = xs.reverse := ⟨ds.reverse, ds.reverse_reverse.symm⟩
  refine ⟨_, ?_, rfl⟩
  simp only [trim, List.reverse_reverse, List.length_reverse]
  have hfront : xs.takeWhile (· = '0') = xs.take (xs.takeWhile (· = '0')).length :=
    List.prefix_iff_eq_take.mp (List.takeWhile_prefix _)
  have hzeros : xs.takeWhile (· = '0') = List.replicate (xs.takeWhile (· = '0')).length '0' :=
    List.eq_replicate_of_mem fun c hc => by simpa using List.mem_takeWhile_imp hc
  generalize (xs.takeWhile (· = '0')).length = zeros at hfront hzeros ⊢
  rw [← List.reverse_drop, ← List.reverse_replicate, ← hzeros, hfront, ← List.reverse_append,
    List.take_append_drop]

theorem nearestScaled_trim (negative : Bool) (ds : List Char) (e : Int) :
    Decimal.nearestScaled negative (trim ds e).significand (trim ds e).exponent =
      Decimal.nearestScaled negative (Decimal.ofDigits (ds.map digitValue)) e := by
  obtain ⟨zeros, hds, he⟩ := exists_trim ds e
  have hvalue : Decimal.ofDigits (ds.map digitValue) = (trim ds e).significand * 10 ^ zeros := by
    conv_lhs => rw [hds]
    rw [significand, Decimal.ofDigits_digitValue, Decimal.ofDigits_digitValue, Nat.ofDigitChars_append,
      Nat.ofDigitChars_replicate_zero, Nat.mul_comm]
  have hpower : e = (trim ds e).exponent - zeros := by omega
  conv_rhs => rw [hvalue, hpower]
  exact (Decimal.nearestScaled_mul_pow negative _ _ zeros).symm

theorem nearestScaled_negative {n u : Nat} {e : Int}
    (h : Decimal.nearestScaled false n e = .finite false u) (negative : Bool) :
    Decimal.nearestScaled negative n e = .finite negative u := by
  have hsign {v : Nat} (h : Binary64.finite false v = .finite false u) :
      Binary64.finite negative v = .finite negative u := congrArg _ (Binary64.finite.inj h).2
  have hratio {a b : Nat} (h : Binary64.ofRatio false a b = .finite false u) :
      Binary64.ofRatio negative a b = .finite negative u := by
    simp only [Binary64.ofRatio] at h ⊢
    split_ifs at h ⊢ with hfinite
    exact hsign h
  unfold Decimal.nearestScaled at h ⊢
  split_ifs at h ⊢ with hzero hhigh hlow hwhole
  · exact hsign h
  · exact hsign h
  · exact hratio h
  · exact hratio h

/-- Whether digits stand for so many units. -/
structure Means (d : Digits) (u : Nat) : Prop where
  isDigit : ∀ c ∈ d.digits, c.isDigit
  ne_nil : d.digits ≠ []
  nearest : ∀ negative, Decimal.nearestScaled negative d.significand d.exponent = .finite negative u

theorem ofUnits_means {u : Nat} (hpos : 0 < u) (hu : IsCount u) : (ofUnits u).Means u := by
  have hread : Decimal.nearestScaled false (search u (magnitude u) 17 1).1 (search u (magnitude u) 17 1).2 =
      .finite false u := search_readsBack hpos hu rfl (by omega)
  unfold ofUnits
  generalize search u (magnitude u) 17 1 = found at hread ⊢
  obtain ⟨m, p⟩ := found
  have hnearest : Decimal.nearestScaled false (trim (Nat.toDigits 10 m) p).significand
      (trim (Nat.toDigits 10 m) p).exponent = .finite false u := by
    rw [nearestScaled_trim, Json.ofDigits_toDigits, hread]
  refine ⟨fun c hc => ?_, fun hnil => ?_, nearestScaled_negative hnearest⟩
  · obtain ⟨zeros, hsplit, -⟩ := exists_trim (Nat.toDigits 10 m) p
    have hmem : c ∈ Nat.toDigits 10 m := hsplit ▸ List.mem_append_left _ hc
    exact Nat.isDigit_of_mem_toDigits (by omega) (by omega) hmem
  · have hzero : (trim (Nat.toDigits 10 m) p).significand = 0 := by
      rw [significand, hnil]
      rfl
    rw [hzero] at hnearest
    have huzero : (0 : Nat) = u := (Binary64.finite.inj hnearest).2
    omega

end Digits

theorem takeDigits_append {ds rest : List Char} (hds : ∀ c ∈ ds, c.isDigit)
    (hrest : ∀ c ∈ rest.head?, c.isDigit = false) :
    takeDigits (ds ++ rest) = (ds.map digitValue, rest) := by
  have hstop : rest.takeWhile Char.isDigit = [] ∧ rest.dropWhile Char.isDigit = rest := by
    cases rest with
    | nil => exact ⟨rfl, rfl⟩
    | cons c cs =>
      have hc := hrest c rfl
      simp [hc]
  rw [takeDigits, List.takeWhile_append_of_pos hds, List.dropWhile_append_of_pos hds, hstop.1, hstop.2,
    List.append_nil]

/-- A sign only where there is a minus. -/
def minus (negative : Bool) (cs : List Char) : List Char := if negative then '-' :: cs else cs

theorem signed_minus (negative : Bool) {c : Char} (hc : c.isDigit) (cs : List Char) :
    Numeral.signed (minus negative (c :: cs)) = (negative, c :: cs) := by
  cases negative with
  | true => rfl
  | false =>
    have hne : c ≠ '-' ∧ c ≠ '+' := by
      constructor <;> rintro rfl <;> cases hc
    simp [minus, Numeral.signed, hne]

theorem exponent?_power (e : Int) :
    Numeral.exponent? ('e' :: (if e < 0 then '-' else '+') :: Nat.toDigits 10 e.natAbs) = some (some e) := by
  obtain ⟨d, ds, hdigits, -, -⟩ := exists_toDigits e.natAbs
  have hvalue := Json.ofDigits_toDigits e.natAbs
  have htake := takeDigits_toDigits e.natAbs
  rw [hdigits, List.map_cons] at hvalue htake
  rw [hdigits]
  by_cases he : e < 0
  · simp only [if_pos he, Numeral.exponent?, Numeral.signed, true_or, if_true, htake, hvalue]
    exact congrArg (some ∘ some) (by omega)
  · simp only [if_neg he, Numeral.exponent?, Numeral.signed, true_or, if_true, htake, hvalue]
    exact congrArg (some ∘ some) (Int.natAbs_of_nonneg (by omega))

namespace Decimal

/-- A numeral read by its parts: digits, digits after a point, and an exponent. -/
theorem ofChars?_parts (negative point : Bool) (ws fs tail : List Char) {e : Option Int}
    (hws : ∀ c ∈ ws, c.isDigit) (hne : ws ≠ []) (hfs : ∀ c ∈ fs, c.isDigit)
    (hpoint : point = false → fs = []) (htail : ∀ c ∈ tail.head?, c = 'e')
    (he : Numeral.exponent? tail = some e) :
    ofChars? (minus negative (ws ++ ((if point then '.' :: fs else []) ++ tail))) =
      some ⟨negative, ws.map digitValue, fs.map digitValue, e.getD 0⟩ := by
  obtain ⟨c, cs, rfl⟩ := List.exists_cons_of_ne_nil hne
  have hsigned := signed_minus negative (hws c List.mem_cons_self)
    (cs ++ ((if point then '.' :: fs else []) ++ tail))
  have hletter : ∀ d ∈ tail.head?, d.isDigit = false ∧ d ≠ '.' := by
    intro d hd
    obtain rfl := htail d hd
    exact ⟨rfl, by decide⟩
  cases point with
  | true =>
    have hwhole : takeDigits (c :: cs ++ '.' :: (fs ++ tail)) =
        ((c :: cs).map digitValue, '.' :: (fs ++ tail)) := takeDigits_append hws (by simp)
    have hfraction := takeDigits_append hfs fun d hd => (hletter d hd).1
    simp only [List.cons_append, if_true, List.map_cons] at hsigned hwhole ⊢
    simp [ofChars?, hsigned, hwhole, hfraction, he]
  | false =>
    obtain rfl := hpoint rfl
    have hwhole : takeDigits (c :: cs ++ tail) = ((c :: cs).map digitValue, tail) :=
      takeDigits_append hws fun d hd => (hletter d hd).1
    simp only [List.cons_append, Bool.false_eq_true, if_false, List.map_cons, List.nil_append]
      at hsigned hwhole ⊢
    cases tail with
    | nil =>
      rw [List.append_nil] at hsigned hwhole
      simp [ofChars?, hsigned, hwhole, he]
    | cons d ds =>
      have hd : d ≠ '.' := (hletter d rfl).2
      simp [ofChars?, hsigned, hwhole, he, hd]

/-- Whether characters, with a sign before them, are read as so many units. -/
def Spells (cs : List Char) (u : Nat) : Prop :=
  ∀ negative, (ofChars? (minus negative cs)).map (·.nearest) = some (.finite negative u)

end Decimal

namespace Digits

variable {d : Digits} {u : Nat}

/-- Digits around a point, with further zeros, and a power of ten spell a number if they come to its
digits. -/
theorem Means.spells (hd : d.Means u) (point : Bool) (ws fs tail : List Char) {e : Option Int}
    (hws : ∀ c ∈ ws, c.isDigit) (hne : ws ≠ []) (hfs : ∀ c ∈ fs, c.isDigit)
    (hpoint : point = false → fs = []) (htail : ∀ c ∈ tail.head?, c = 'e')
    (he : Numeral.exponent? tail = some e) (zeros : Nat)
    (hvalue : Nat.ofDigitChars 10 (ws ++ fs) 0 = 10 ^ zeros * Nat.ofDigitChars 10 d.digits 0)
    (hpower : e.getD 0 - fs.length = d.exponent - zeros) :
    Decimal.Spells (ws ++ ((if point then '.' :: fs else []) ++ tail)) u := by
  intro negative
  rw [Decimal.ofChars?_parts negative point ws fs tail hws hne hfs hpoint htail he, Option.map_some]
  congr 1
  unfold Decimal.nearest
  rw [← List.map_append, Decimal.ofDigits_digitValue, List.length_map, hvalue, hpower, Nat.mul_comm,
    Decimal.nearestScaled_mul_pow, ← Decimal.ofDigits_digitValue]
  exact hd.nearest negative

end Digits

namespace NumberLayout

open Decimal (Spells)

variable {d : Digits} {u : Nat}

theorem isDigit_zeros (n : Nat) : ∀ c ∈ zeros n, c.isDigit := by
  intro c hc
  obtain rfl := List.eq_of_mem_replicate hc
  rfl

theorem ofDigitChars_zeros (ds : List Char) (n : Nat) :
    Nat.ofDigitChars 10 (ds ++ zeros n) 0 = 10 ^ n * Nat.ofDigitChars 10 ds 0 := by
  rw [Nat.ofDigitChars_append, zeros, Nat.ofDigitChars_replicate_zero]

theorem place_spells (l : NumberLayout) (hd : d.Means u) : Spells (l.place d) u := by
  have hexponent : Numeral.exponent? [] = some none := rfl
  unfold place
  by_cases he : 0 ≤ d.exponent
  · have hws : ∀ c ∈ d.digits ++ zeros d.exponent.toNat, c.isDigit :=
      List.forall_mem_append.mpr ⟨hd.isDigit, isDigit_zeros _⟩
    have hne : d.digits ++ zeros d.exponent.toNat ≠ [] := List.append_ne_nil_of_left_ne_nil hd.ne_nil _
    rw [if_pos he]
    cases l.wholeMark with
    | true =>
      refine hd.spells true _ ['0'] [] hws hne (by simp) nofun nofun hexponent (d.exponent.toNat + 1) ?_ ?_
      · have hmore : d.digits ++ zeros d.exponent.toNat ++ ['0'] =
            d.digits ++ zeros (d.exponent.toNat + 1) := by
          rw [List.append_assoc, zeros, zeros, List.replicate_succ']
        rw [hmore, ofDigitChars_zeros]
      · simp
        omega
    | false =>
      refine hd.spells false _ [] [] hws hne nofun (fun _ => rfl) nofun hexponent d.exponent.toNat ?_ ?_
      · rw [List.append_nil, ofDigitChars_zeros]
      · simp
        omega
  rw [if_neg he]
  by_cases hpoint : 0 < (d.digits.length : Int) + d.exponent
  · rw [if_pos hpoint]
    generalize hk : ((d.digits.length : Int) + d.exponent).toNat = k
    have hne : d.digits.take k ≠ [] := by
      rw [Ne, List.take_eq_nil_iff, not_or]
      exact ⟨by omega, hd.ne_nil⟩
    have hspells := hd.spells true (d.digits.take k) (d.digits.drop k) []
      (fun c hc => hd.isDigit c (List.mem_of_mem_take hc)) hne
      (fun c hc => hd.isDigit c (List.mem_of_mem_drop hc)) nofun nofun hexponent 0
    rw [List.take_append_drop, List.length_drop, List.append_nil] at hspells
    exact hspells (by simp) (by simp; omega)
  · rw [if_neg hpoint]
    generalize hk : (-((d.digits.length : Int) + d.exponent)).toNat = k
    have hspells := hd.spells true ['0'] (zeros k ++ d.digits) []
      (by simp) (by simp) (List.forall_mem_append.mpr ⟨isDigit_zeros k, hd.isDigit⟩) nofun nofun
      hexponent 0
    rw [List.length_append, List.append_nil] at hspells
    refine hspells ?_ ?_
    · have hzero : Nat.ofDigitChars 10 (zeros (k + 1)) 0 = 0 := ofDigitChars_zeros [] (k + 1)
      have hsplit : ['0'] ++ (zeros k ++ d.digits) = zeros (k + 1) ++ d.digits := rfl
      rw [hsplit, Nat.ofDigitChars_append, hzero, Nat.pow_zero, Nat.one_mul]
    · simp [zeros]
      omega

theorem power_spells (hd : d.Means u) : Spells (power d) u := by
  obtain ⟨c, cs, hdigits⟩ := List.exists_cons_of_ne_nil hd.ne_nil
  have hall := List.forall_mem_cons.mp (hdigits ▸ hd.isDigit)
  have hexponent := exponent?_power (d.digits.length + d.exponent - 1)
  unfold power
  generalize he : (d.digits.length : Int) + d.exponent - 1 = e at hexponent
  have hspells (point : Bool) (hpoint : point = false → cs = []) :=
    hd.spells point [c] cs _ (by simpa using hall.1) (by simp) hall.2 hpoint (by simp) hexponent 0
      (by simp [hdigits]) (by simp [hdigits] at he ⊢; omega)
  rw [hdigits]
  cases cs with
  | nil => exact hspells false fun _ => rfl
  | cons c' cs => exact hspells true nofun

theorem zero_spells (mark : Bool) : Spells ('0' :: (if mark then ['.', '0'] else [])) 0 := by
  intro negative
  have hzero : Decimal.nearestScaled negative 0 = fun _ => .finite negative 0 := by
    funext e
    rw [Decimal.nearestScaled, if_pos rfl]
  cases mark with
  | true =>
    have hread := Decimal.ofChars?_parts negative true ['0'] ['0'] [] (by simp) (by simp) (by simp) nofun
      nofun rfl
    exact (congrArg (Option.map (·.nearest)) hread).trans (congrArg some (congrFun hzero _))
  | false =>
    have hread := Decimal.ofChars?_parts negative false ['0'] [] [] (by simp) (by simp) nofun
      (fun _ => rfl) nofun rfl
    exact (congrArg (Option.map (·.nearest)) hread).trans (congrArg some (congrFun hzero _))

/-- The numeral without its sign. -/
def body (l : NumberLayout) (u : Nat) : List Char :=
  if u = 0 then '0' :: (if l.wholeMark then ['.', '0'] else [])
  else
    let d := Digits.ofUnits u
    let first : Int := d.digits.length + d.exponent - 1
    match l.positional? with
    | none => l.place d
    | some (least, greatest) => if least ≤ first ∧ first ≤ greatest then l.place d else power d

theorem toList_write (l : NumberLayout) (negative : Bool) (u : Nat) :
    (l.write (.finite negative u)).toList = minus negative (l.body u) :=
  String.toList_ofList

theorem body_spells (l : NumberLayout) (hu : Binary64.IsCount u) : Spells (l.body u) u := by
  obtain rfl | hpos := Nat.eq_zero_or_pos u
  · exact zero_spells l.wholeMark
  have hmeans := Digits.ofUnits_means hpos hu
  unfold body
  rw [if_neg (Nat.pos_iff_ne_zero.mp hpos)]
  dsimp only
  split
  · exact l.place_spells hmeans
  · split
    · exact l.place_spells hmeans
    · exact power_spells hmeans

/-- The shortest numeral of a number, rounded once, is that number again. -/
theorem nearest_write (l : NumberLayout) (negative : Bool) (hu : Binary64.IsCount u) :
    (Decimal.ofChars? (l.write (.finite negative u)).toList).map (·.nearest) =
      some (.finite negative u) := by
  rw [toList_write]
  exact l.body_spells hu negative

end NumberLayout

end Arbiter
