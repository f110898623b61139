import Arbiter.Content
import Arbiter.Number.Numeral
import Arbiter.Number.Word

namespace Arbiter.Yaml.Plain

def isNull (s : String) : Bool := s ∈ ["~", "null", "Null", "NULL"]

def boolean? (s : String) : Option Bool :=
  if s ∈ ["true", "True", "TRUE"] then some true
  else if s ∈ ["false", "False", "FALSE"] then some false
  else none

/-- Digits after a needless zero are no number. -/
def isPadded (cs : List Char) : Bool :=
  match (Numeral.signed cs).2 with
  | '0' :: d :: ds => (d :: ds).all Char.isDigit
  | _ => false

/-- A whole number, whose base may be told before its digits. -/
def integer? (cs : List Char) : Option Int :=
  let (negative, body) := Numeral.signed cs
  let n? := match body with
    | '0' :: 'x' :: ds => Numeral.natural? 16 ds
    | '0' :: 'o' :: ds => Numeral.natural? 8 ds
    | '0' :: 'b' :: ds => Numeral.natural? 2 ds
    | ds => if isPadded ds then none else Numeral.natural? 10 ds
  n?.map fun (n : Nat) => if negative then -n else n

/-- The infinities and the value that is no number have words of their own; other doubles are finite. -/
def double? (s : String) : Option Binary64 :=
  let positive := if s.startsWith "+" then s.toList.drop 1 else s.toList
  if s.startsWith "+" ∧ Numeral.isSigned positive then none
  else if String.ofList positive ∈ [".inf", ".Inf", ".INF"] then some (.infinite false)
  else if s ∈ ["-.inf", "-.Inf", "-.INF"] then some (.infinite true)
  else if s ∈ [".nan", ".NaN", ".NAN"] then some .nan
  else ((Decimal.ofChars? positive).map (·.nearest)).filter (·.isFinite)

/-- A whole number, if it fits 64 bits. One of 65 to 128 bits is refused, and a longer one is none. -/
def whole? (s : String) : Option (Option Content) :=
  match integer? s.toList with
  | none => none
  | some n =>
    if s.startsWith "-" ∧ fitsSigned 64 n then some (some (.signed n))
    else if fitsUnsigned 64 n then some (some (.natural n.toNat))
    else if fitsSigned 128 n ∨ fitsUnsigned 128 n then some none
    else none

/-- What a plain scalar without a tag stands for. -/
def content? (s : String) : Option Content :=
  if s.isEmpty ∨ isNull s then some .null
  else
    match boolean? s, whole? s with
    | some b, _ => some (.bool b)
    | none, some n => n
    | none, none =>
      match if isPadded s.toList then none else double? s with
      | some x => some (.double x)
      | none => some (.string s)

end Arbiter.Yaml.Plain
