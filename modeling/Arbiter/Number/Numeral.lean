import Arbiter.Number.Decimal

namespace Arbiter

/-- The value of a decimal digit. -/
def digitValue (c : Char) : Nat := c.toNat - '0'.toNat

/-- The value of a hexadecimal digit, in either case. -/
def hexValue? (c : Char) : Option Nat :=
  if c.isDigit then some (c.toNat - '0'.toNat)
  else if 'a' ≤ c ∧ c ≤ 'f' then some (c.toNat - 'a'.toNat + 10)
  else if 'A' ≤ c ∧ c ≤ 'F' then some (c.toNat - 'A'.toNat + 10)
  else none

def takeDigits (cs : List Char) : List Nat × List Char :=
  ((cs.takeWhile Char.isDigit).map digitValue, cs.dropWhile Char.isDigit)

namespace Numeral

def signed (cs : List Char) : Bool × List Char :=
  match cs with
  | '-' :: cs => (true, cs)
  | '+' :: cs => (false, cs)
  | cs => (false, cs)

def isSigned (cs : List Char) : Bool := cs.head?.any fun c => c = '+' || c = '-'

/-- An exponent up to the end of the numeral, or nothing; `none` inside where there is none. -/
def exponent? : List Char → Option (Option Int)
  | [] => some none
  | c :: cs =>
    if c = 'e' ∨ c = 'E' then
      let (negative, rest) := signed cs
      match takeDigits rest with
      | ([], _) => none
      | (ds, []) => some (some (if negative then -Decimal.ofDigits ds else Decimal.ofDigits ds))
      | _ => none
    else none

/-- A natural number in some base up to sixteen; no digits stand for nothing. -/
def natural? (base : Nat) (cs : List Char) : Option Nat := do
  let ds ← cs.mapM hexValue?
  if ds.isEmpty ∨ ds.any (base ≤ ·) then none else return ds.foldl (fun n d => n * base + d) 0

end Numeral

namespace Decimal

/-- Reads a numeral that may have a point and an exponent; of the digits around a point one side may be
missing. -/
def ofChars? (cs : List Char) : Option Decimal := do
  let (negative, cs) := Numeral.signed cs
  let (whole, rest) := takeDigits cs
  let (fraction, rest) := match rest with
    | '.' :: rest => takeDigits rest
    | rest => ([], rest)
  if whole.isEmpty ∧ fraction.isEmpty then none
  else return ⟨negative, whole, fraction, (← Numeral.exponent? rest).getD 0⟩

end Decimal

namespace Binary64

/-- Reads a decimal numeral to the nearest number, or one of the words for the infinities and for no
number at all. -/
def ofText? (s : String) : Option Binary64 :=
  let (negative, word) := Numeral.signed (s.toLower.toList)
  match String.ofList word with
  | "inf" | "infinity" => some (.infinite negative)
  | "nan" => some .nan
  | _ => (Decimal.ofChars? s.toList).map (·.nearest)

end Binary64

end Arbiter
