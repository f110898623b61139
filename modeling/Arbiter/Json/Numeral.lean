import Arbiter.Json.Basic
import Arbiter.Number.Numeral
import Arbiter.Number.Word

namespace Arbiter

namespace Json.Numeral

/-- A point and at least one digit, or nothing. -/
def fraction? : List Char → Option (List Nat × List Char)
  | '.' :: cs =>
    match takeDigits cs with
    | ([], _) => none
    | r => some r
  | cs => some ([], cs)

/-- The parts of a numeral, with its exponent if there is one. -/
structure Parts where
  negative : Bool
  whole : List Nat
  fraction : List Nat
  exponent : Option Int

def Parts.ofChars? (cs : List Char) : Option Parts := do
  let (negative, cs) := match cs with
    | '-' :: cs => (true, cs)
    | cs => (false, cs)
  let (whole, rest) := takeDigits cs
  match whole with
  | [] => none
  | 0 :: _ :: _ => none
  | _ =>
    let (fraction, rest) ← fraction? rest
    return ⟨negative, whole, fraction, ← Numeral.exponent? rest⟩

/-- A numeral with neither fraction nor exponent is a whole number if it fits 64 bits, signed or not;
minus zero is a double, and so is all else that is not too large for one. -/
def Parts.value? (p : Parts) : Option Json :=
  let n := Decimal.ofDigits p.whole
  let double :=
    match Decimal.scaled ⟨p.negative, p.whole, p.fraction, p.exponent.getD 0⟩ with
    | .finite s u => some (Json.double (.finite s u))
    | _ => none
  if p.fraction ≠ [] ∨ p.exponent.isSome then double
  else if p.negative then if 0 < n ∧ fitsSigned 64 (-n) then some (.integer (-n)) else double
  else if fitsUnsigned 64 n then some (.integer n) else double

end Json.Numeral

end Arbiter
