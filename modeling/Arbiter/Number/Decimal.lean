import Arbiter.Number.Binary64

/-! Reading decimal numerals as binary64 numbers, in two ways: `Decimal.nearest` rounds once, and
`Decimal.scaled` multiplies or divides a 64-bit significand by a rounded power of ten. -/

namespace Arbiter

/-- A numeral as written: sign, digits before and after the point, and power of ten. -/
structure Decimal where
  negative : Bool
  whole : List Nat
  fraction : List Nat
  exponent : Int
  deriving DecidableEq, Repr

namespace Decimal

def ofDigits (ds : List Nat) : Nat :=
  ds.foldl (fun n d => n * 10 + d) 0

def digitCount (n : Nat) : Nat := (Nat.toDigits 10 n).length

/-- The binary64 number nearest to `n * 10 ^ e`. The two outer cases are decided by the size alone,
so that no huge power is ever computed. -/
def nearestScaled (negative : Bool) (n : Nat) (e : Int) : Binary64 :=
  if n = 0 then .finite negative 0
  else if 310 < e + digitCount n then .infinite negative
  else if e + digitCount n < -330 then .finite negative 0
  else if 0 ≤ e then .ofRatio negative (n * Nat.pow 10 e.toNat * Binary64.one) 1
  else .ofRatio negative (n * Binary64.one) (Nat.pow 10 (-e).toNat)

def nearest (d : Decimal) : Binary64 :=
  nearestScaled d.negative (ofDigits (d.whole ++ d.fraction)) (d.exponent - d.fraction.length)

def powerOfTen (k : Nat) : Binary64 := .ofNat (Nat.pow 10 k)

/-- Multiplies by a power of ten, or divides by one; below 10^-308 in steps of 10^308. -/
def scale (x : Binary64) (e : Int) : Binary64 :=
  if x.isZero then x
  else if 308 < e then .infinite false
  else if 0 ≤ e then x.mul (powerOfTen e.toNat)
  else if -308 ≤ e then x.div (powerOfTen (-e).toNat)
  else scale (x.div (powerOfTen 308)) (e + 308)
termination_by e.natAbs
decreasing_by omega

/-- Takes digits into a 64-bit significand as long as they fit; answers the significand, the number
of digits taken and whether one did not fit. -/
def absorb (n : Nat) : List Nat → Nat × Nat × Bool
  | [] => (n, 0, false)
  | d :: ds =>
    if n * 10 + d < Nat.pow 2 64 then
      let (m, taken, full) := absorb (n * 10 + d) ds
      (m, taken + 1, full)
    else (n, 0, true)

/-- Reads through a 64-bit significand. Digits before the point that no longer fit count as powers of
ten, and those after it are dropped. -/
def scaled (d : Decimal) : Binary64 :=
  let (n, taken, _) := absorb 0 d.whole
  let (m, after, _) := absorb n d.fraction
  let e : Int := (d.whole.length - taken : Nat) - after + d.exponent
  let x := scale (.ofNat m) e
  if d.negative then x.neg else x

end Decimal

end Arbiter
