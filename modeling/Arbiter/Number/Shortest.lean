import Arbiter.Number.Decimal

namespace Arbiter

/-- A decimal significand and its power of ten. -/
structure Digits where
  digits : List Char
  exponent : Int
  deriving DecidableEq, Repr

namespace Digits

/-- The least `k` above `from` with `1 ≤ u * 10 ^ k` in whole ones, within the given number of tries. -/
def leadingPlace (u : Nat) : Nat → Nat → Nat
  | 0, k => k
  | tries + 1, k => if Binary64.one ≤ u * Nat.pow 10 k then k else leadingPlace u tries (k + 1)

/-- The power of ten of the first significant digit of `u` units. -/
def magnitude (u : Nat) : Int :=
  if Binary64.one ≤ u then (Decimal.digitCount (u / Binary64.one) : Int) - 1
  else -(leadingPlace u 330 1 : Nat)

/-- The quotient that `u` units make in steps of `10 ^ p`. -/
def quotient (u : Nat) (p : Int) : Nat × Nat :=
  if 0 ≤ p then (u, Binary64.one * Nat.pow 10 p.toNat) else (u * Nat.pow 10 (-p).toNat, Binary64.one)

/-- Of the two neighbours of `u` on the grid of `10 ^ p`, the nearer one that reads back as `u`. -/
def onGrid? (u : Nat) (p : Int) : Option Nat :=
  let (n, d) := quotient u p
  let low := n / d
  let readsBack (m : Nat) := Decimal.nearestScaled false m p = .finite false u
  let nearer := divNearest n d
  let other := if nearer = low then low + 1 else low
  if readsBack nearer then some nearer else if readsBack other then some other else none

/-- Tries grids of more and more digits, at most 17, which always suffice. -/
def search (u : Nat) (top : Int) : Nat → Nat → Nat × Int
  | 0, count =>
    let p := top - count + 1
    (divNearest (quotient u p).1 (quotient u p).2, p)
  | tries + 1, count =>
    let p := top - count + 1
    match onGrid? u p with
    | some m => (m, p)
    | none => search u top tries (count + 1)

/-- Drops the zeros at the end of a significand. -/
def trim : List Char → Int → Digits
  | ds, e =>
    let zeros := (ds.reverse.takeWhile (· = '0')).length
    ⟨ds.take (ds.length - zeros), e + zeros⟩

/-- The shortest digits of a positive count of units. -/
def ofUnits (u : Nat) : Digits :=
  let (m, p) := search u (magnitude u) 17 1
  trim (Nat.toDigits 10 m) p

end Digits

/-- Where a layout goes over to an exponent, and what it writes for whole numbers. -/
structure NumberLayout where
  /-- The least and the greatest power of ten of a first digit that is written positionally. -/
  positional? : Option (Int × Int)
  /-- Whether a whole number ends in `.0`. -/
  wholeMark : Bool
  infinity : String
  notANumber : String

namespace NumberLayout

def zeros (n : Nat) : List Char := List.replicate n '0'

def place (l : NumberLayout) (d : Digits) : List Char :=
  let point : Int := d.digits.length + d.exponent
  if 0 ≤ d.exponent then
    d.digits ++ zeros d.exponent.toNat ++ (if l.wholeMark then ['.', '0'] else [])
  else if 0 < point then
    d.digits.take point.toNat ++ '.' :: d.digits.drop point.toNat
  else '0' :: '.' :: (zeros (-point).toNat ++ d.digits)

def power (d : Digits) : List Char :=
  let e : Int := d.digits.length + d.exponent - 1
  let mantissa := match d.digits with
    | [] => ['0']
    | [c] => [c]
    | c :: cs => c :: '.' :: cs
  mantissa ++ 'e' :: (if e < 0 then '-' else '+') :: Nat.toDigits 10 e.natAbs

/-- Writes the shortest numeral that reads back. -/
def write (l : NumberLayout) : Binary64 → String
  | .nan => l.notANumber
  | .infinite negative => (if negative then "-" else "") ++ l.infinity
  | .finite negative u =>
    let body :=
      if u = 0 then '0' :: (if l.wholeMark then ['.', '0'] else [])
      else
        let d := Digits.ofUnits u
        let first : Int := d.digits.length + d.exponent - 1
        match l.positional? with
        | none => l.place d
        | some (least, greatest) =>
          if least ≤ first ∧ first ≤ greatest then l.place d else power d
    String.ofList (if negative then '-' :: body else body)

/-- Plain positional notation at every size. -/
def positional : NumberLayout := ⟨none, false, "inf", "NaN"⟩

end NumberLayout

end Arbiter
