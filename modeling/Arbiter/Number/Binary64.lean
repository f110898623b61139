/-! The numbers of the binary64 format, on exact integers.

Every finite one is a whole multiple of 2^-1074, so a number is a sign and a count of that unit, and
each operation is an exact quotient of integers rounded once. -/

namespace Arbiter

/-- The quotient of `n` by `d` to the nearest integer; a half goes to the even neighbour. -/
def divNearest (n d : Nat) : Nat :=
  let q := n / d
  let r := n % d
  if 2 * r < d then q else if d < 2 * r then q + 1 else q + q % 2

/-- A binary64 number. A finite one stands for `units` times 2^-1074. -/
inductive Binary64 where
  | finite (negative : Bool) (units : Nat)
  | infinite (negative : Bool)
  | nan
  deriving DecidableEq, Repr, Inhabited

namespace Binary64

/-- How many units make one. -/
def one : Nat := Nat.pow 2 1074

/-- The first count of units past the largest finite number. -/
def bound : Nat := Nat.pow 2 2098

/-- The quotient of `n` by `d` to the nearest integer whose significand has at most 53 bits. -/
def roundRatio (n d : Nat) : Nat :=
  let shift := (n / d).log2 - 52
  divNearest n (d * Nat.pow 2 shift) * Nat.pow 2 shift

/-- The number nearest to `n / d` units. -/
def ofRatio (negative : Bool) (n d : Nat) : Binary64 :=
  let units := roundRatio n d
  if units < bound then finite negative units else infinite negative

def zero : Binary64 := finite false 0

def ofNat (n : Nat) : Binary64 := ofRatio false (n * one) 1

def ofInt (n : Int) : Binary64 := ofRatio (decide (n < 0)) (n.natAbs * one) 1

def isFinite : Binary64 → Bool
  | finite _ _ => true
  | _ => false

def isZero : Binary64 → Bool
  | finite _ units => units = 0
  | _ => false

def neg : Binary64 → Binary64
  | finite s u => finite (!s) u
  | infinite s => infinite (!s)
  | nan => nan

def mul : Binary64 → Binary64 → Binary64
  | finite s a, finite t b => ofRatio (s != t) (a * b) one
  | finite s a, infinite t => if a = 0 then nan else infinite (s != t)
  | infinite s, finite t b => if b = 0 then nan else infinite (s != t)
  | infinite s, infinite t => infinite (s != t)
  | _, _ => nan

def div : Binary64 → Binary64 → Binary64
  | finite s a, finite t b =>
    if b = 0 then if a = 0 then nan else infinite (s != t) else ofRatio (s != t) (a * one) b
  | finite s _, infinite t => finite (s != t) 0
  | infinite s, finite t _ => infinite (s != t)
  | _, _ => nan

/-- The signed count of units, the infinities lying just past every finite number. -/
def scaled? : Binary64 → Option Int
  | finite s u => some (if s then -u else u)
  | infinite s => some (if s then -bound else bound)
  | nan => none

def lt (a b : Binary64) : Bool :=
  match a.scaled?, b.scaled? with
  | some x, some y => x < y
  | _, _ => false

def le (a b : Binary64) : Bool :=
  match a.scaled?, b.scaled? with
  | some x, some y => x ≤ y
  | _, _ => false

/-- Equality of values: the zeros are equal and `nan` equals nothing. -/
def same (a b : Binary64) : Bool :=
  match a.scaled?, b.scaled? with
  | some x, some y => x = y
  | _, _ => false

/-- Whether the rounded difference of two finite numbers is below 2^-52. -/
def near : Binary64 → Binary64 → Bool
  | a@(finite _ _), b@(finite _ _) =>
    match a.scaled?, b.scaled? with
    | some x, some y => roundRatio (x - y).natAbs 1 < Nat.pow 2 1022
    | _, _ => false
  | _, _ => false

/-- The whole part, clamped to the 64-bit words. -/
def toWord : Binary64 → Nat
  | finite false u => min (u / one) (Nat.pow 2 64 - 1)
  | infinite false => Nat.pow 2 64 - 1
  | _ => 0

/-- The nearest integer, a half going away from zero, clamped to the 64-bit words. -/
def roundToWord : Binary64 → Nat
  | finite false u => min ((2 * u + one) / (2 * one)) (Nat.pow 2 64 - 1)
  | x => x.toWord

end Binary64

end Arbiter
