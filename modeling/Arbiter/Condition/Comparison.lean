import Arbiter.Condition.Basic
import Arbiter.Error
import Arbiter.Json.Basic
import Arbiter.Pattern.Basic

namespace Arbiter

/-- Why a condition has no truth value. -/
inductive Fault where
  | missing (m : MissingAttribute)
  | noDesignator
  | noOperand (o : Operator)
  | noNested
  | notNumeric
  | badPattern (pattern : String)
  /-- The attribute finder failed. -/
  | finder (e : Error)
  deriving DecidableEq, Repr

namespace Fault

def error : Fault → Error
  | missing m => .missingAttribute m
  | noDesignator => .expression "Condition requires an attribute"
  | noOperand o => .expression (o.label ++ " condition requires a value")
  | noNested => .expression "NOT condition requires a nested condition"
  | notNumeric => .evaluation "Expected numeric value for comparison"
  | badPattern p => .expression "Invalid regex" (some p)
  | finder e => e

end Fault

mutual

/-- Whether a bag value equals an operand. A whole operand equals only a whole number, and a double
one every number near it. -/
def equalValue : Json → Operand → Bool
  | .string a, .string b => a = b
  | .integer a, .integer b => a = b.toInt
  | .integer a, .double b => (Binary64.ofInt a).near b
  | .double a, .double b => a.near b
  | .bool a, .boolean b => a = b
  | .null, .null => true
  | .array as, .array bs => equalValues as bs
  | _, _ => false

def equalValues : List Json → List Operand → Bool
  | [], [] => true
  | a :: as, b :: bs => equalValue a b && equalValues as bs
  | _, _ => false

end

namespace Operand

/-- The operand as a double, if it is a number. -/
def toDouble? : Operand → Option Binary64
  | integer n => some (.ofInt n.toInt)
  | double x => some x
  | _ => none

end Operand

/-- Compares two numbers as doubles. -/
def compareNumbers (holds : Binary64 → Binary64 → Bool) (a : Json) (b : Operand) : Except Fault Bool :=
  match a.toDouble?, b.toDouble? with
  | some x, some y => .ok (holds x y)
  | _, _ => .error .notNumeric

/-- Whether `part` stands somewhere in a text. -/
def occursIn (part : List Char) : List Char → Bool
  | [] => part.isEmpty
  | c :: cs => part.isPrefixOf (c :: cs) || occursIn part cs

/-- Whether a value is a candidate; an operand that is no list is the only one. -/
def isCandidate (a : Json) : Operand → Bool
  | .array bs => bs.any (equalValue a)
  | b => equalValue a b

/-- Whether a text has the operand as a part, or a list as an item. -/
def containsValue : Json → Operand → Bool
  | .string a, .string b => occursIn b.toList a.toList
  | .array as, b => as.any (equalValue · b)
  | _, _ => false

/-- Compares two texts; other values do not compare. -/
def compareTexts (holds : List Char → List Char → Bool) : Json → Operand → Bool
  | .string a, .string b => holds a.toList b.toList
  | _, _ => false

/-- Looks for a pattern in a text. A pattern that is none is a fault only where there is a text. -/
def matchText : Json → Operand → Except Fault Bool
  | .string a, .string b =>
    match Pattern.ofText? b with
    | some p => .ok (p.occursIn a)
    | none => .error (.badPattern b)
  | _, _ => .ok false

namespace Test

def holds : Test → Json → Operand → Except Fault Bool
  | equals, a, b => .ok (equalValue a b)
  | greater, a, b => compareNumbers (fun x y => y.lt x) a b
  | greaterOrEqual, a, b => compareNumbers (fun x y => y.le x) a b
  | less, a, b => compareNumbers Binary64.lt a b
  | lessOrEqual, a, b => compareNumbers Binary64.le a b
  | within, a, b => .ok (isCandidate a b)
  | contains, a, b => .ok (containsValue a b)
  | startsWith, a, b => .ok (compareTexts (fun s t => t.isPrefixOf s) a b)
  | endsWith, a, b => .ok (compareTexts (fun s t => t.isSuffixOf s) a b)
  | fits, a, b => matchText a b

end Test

end Arbiter
