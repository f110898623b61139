import Arbiter.Attribute
import Arbiter.Number.Binary64

namespace Arbiter

/-- A comparison of one bag value with an operand. -/
inductive Test where
  | equals
  | greater
  | greaterOrEqual
  | less
  | lessOrEqual
  | within
  | contains
  | startsWith
  | endsWith
  | fits
  deriving DecidableEq, Repr, Inhabited

inductive Operator where
  /-- Some value of the bag passes the test. -/
  | test (t : Test)
  | notEquals
  | notWithin
  | present
  | absent
  | and
  | or
  | not
  deriving DecidableEq, Repr, Inhabited

/-- The constant a bag is compared with. -/
inductive Operand where
  | string (s : String)
  | integer (n : Int64)
  | double (x : Binary64)
  | boolean (b : Bool)
  | array (items : List Operand)
  | null
  deriving Inhabited

structure Condition where
  operator : Operator
  designator : Option Designator := none
  operand : Option Operand := none
  nested : List Condition := []
  deriving Inhabited

namespace Operator

def tests : List Test :=
  [.equals, .greater, .greaterOrEqual, .less, .lessOrEqual, .within, .contains, .startsWith,
    .endsWith, .fits]

def all : List Operator :=
  tests.map test ++ [notEquals, notWithin, present, absent, and, or, not]

/-- The word for an operator in policies. -/
def word : Operator → String
  | test .equals => "equals"
  | test .greater => "greater_than"
  | test .greaterOrEqual => "greater_than_or_equals"
  | test .less => "less_than"
  | test .lessOrEqual => "less_than_or_equals"
  | test .within => "in"
  | test .contains => "contains"
  | test .startsWith => "starts_with"
  | test .endsWith => "ends_with"
  | test .fits => "matches"
  | notEquals => "not_equals"
  | notWithin => "not_in"
  | present => "exists"
  | absent => "not_exists"
  | and => "and"
  | or => "or"
  | not => "not"

/-- The name of an operator in messages. -/
def label : Operator → String
  | test .equals => "Equals"
  | test .greater => "GreaterThan"
  | test .greaterOrEqual => "GreaterThanOrEquals"
  | test .less => "LessThan"
  | test .lessOrEqual => "LessThanOrEquals"
  | test .within => "In"
  | test .contains => "Contains"
  | test .startsWith => "StartsWith"
  | test .endsWith => "EndsWith"
  | test .fits => "Matches"
  | notEquals => "NotEquals"
  | notWithin => "NotIn"
  | present => "Exists"
  | absent => "NotExists"
  | and => "And"
  | or => "Or"
  | not => "Not"

def ofWord? (s : String) : Option Operator :=
  all.find? (·.word = s)

@[simp] theorem ofWord?_word (o : Operator) : ofWord? o.word = some o := by
  cases o with
  | test t => cases t <;> rfl
  | _ => rfl

end Operator

namespace Operand

mutual

def decEq : (a b : Operand) → Decidable (a = b)
  | string a, string b => if h : a = b then isTrue (by rw [h]) else isFalse (by simp [h])
  | integer a, integer b => if h : a = b then isTrue (by rw [h]) else isFalse (by simp [h])
  | double a, double b => if h : a = b then isTrue (by rw [h]) else isFalse (by simp [h])
  | boolean a, boolean b => if h : a = b then isTrue (by rw [h]) else isFalse (by simp [h])
  | null, null => isTrue rfl
  | array a, array b =>
    match decEqItems a b with
    | isTrue h => isTrue (by rw [h])
    | isFalse h => isFalse (by simp [h])
  | string _, integer _ | string _, double _ | string _, boolean _ | string _, array _
  | string _, null | integer _, string _ | integer _, double _ | integer _, boolean _
  | integer _, array _ | integer _, null | double _, string _ | double _, integer _
  | double _, boolean _ | double _, array _ | double _, null | boolean _, string _
  | boolean _, integer _ | boolean _, double _ | boolean _, array _ | boolean _, null
  | array _, string _ | array _, integer _ | array _, double _ | array _, boolean _
  | array _, null | null, string _ | null, integer _ | null, double _ | null, boolean _
  | null, array _ => isFalse (by simp)

def decEqItems : (a b : List Operand) → Decidable (a = b)
  | [], [] => isTrue rfl
  | [], _ :: _ | _ :: _, [] => isFalse (by simp)
  | x :: xs, y :: ys =>
    match decEq x y, decEqItems xs ys with
    | isTrue h, isTrue h' => isTrue (by rw [h, h'])
    | isFalse h, _ => isFalse (by simp [h])
    | _, isFalse h => isFalse (by simp [h])

end

instance : DecidableEq Operand := decEq

end Operand

namespace Condition

mutual

def decEq : (a b : Condition) → Decidable (a = b)
  | ⟨o, a, v, cs⟩, ⟨p, b, w, ds⟩ =>
    match decEqAll cs ds with
    | isTrue h =>
      if h' : o = p ∧ a = b ∧ v = w then isTrue (by simp [h, h']) else isFalse (by simp_all)
    | isFalse h => isFalse (by simp [h])

def decEqAll : (a b : List Condition) → Decidable (a = b)
  | [], [] => isTrue rfl
  | [], _ :: _ | _ :: _, [] => isFalse (by simp)
  | x :: xs, y :: ys =>
    match decEq x y, decEqAll xs ys with
    | isTrue h, isTrue h' => isTrue (by rw [h, h'])
    | isFalse h, _ => isFalse (by simp [h])
    | _, isFalse h => isFalse (by simp [h])

end

instance : DecidableEq Condition := decEq

def compare (t : Test) (d : Designator) (v : Operand) : Condition := ⟨.test t, d, v, []⟩

def isPresent (d : Designator) : Condition := ⟨.present, d, none, []⟩

def and (cs : List Condition) : Condition := ⟨.and, none, none, cs⟩

def or (cs : List Condition) : Condition := ⟨.or, none, none, cs⟩

def not (c : Condition) : Condition := ⟨.not, none, none, [c]⟩

/-- What an operator lacks. -/
inductive Flaw where
  | noNested (o : Operator)
  | notOneNested
  | noAttribute (o : Operator)
  | noValue (o : Operator)
  deriving DecidableEq, Repr

def Flaw.message : Flaw → String
  | noNested o => o.label ++ " operator requires at least one nested condition"
  | notOneNested => "NOT operator requires exactly one nested condition"
  | noAttribute o => o.label ++ " operator requires an attribute"
  | noValue o => o.label ++ " operator requires a value"

/-- The flaw of a condition on its own, its nested conditions aside. -/
def ownFlaw? (c : Condition) : Option Flaw :=
  match c.operator with
  | .and | .or => if c.nested.isEmpty then some (.noNested c.operator) else none
  | .not => if c.nested.length = 1 then none else some .notOneNested
  | .present | .absent => if c.designator.isNone then some (.noAttribute c.operator) else none
  | _ =>
    if c.designator.isNone then some (.noAttribute c.operator)
    else if c.operand.isNone then some (.noValue c.operator)
    else none

/-- Whether an operator looks at the nested conditions. -/
def isConnective (c : Condition) : Bool :=
  match c.operator with
  | .and | .or | .not => true
  | _ => false

mutual

/-- The first flaw, outermost first and from left to right. -/
def flaw? : Condition → Option Flaw
  | c@⟨_, _, _, cs⟩ => (ownFlaw? c).or (if c.isConnective then firstFlaw? cs else none)

def firstFlaw? : List Condition → Option Flaw
  | [] => none
  | c :: cs => (flaw? c).or (firstFlaw? cs)

end

theorem firstFlaw?_eq_none_iff {cs : List Condition} :
    firstFlaw? cs = none ↔ ∀ c ∈ cs, flaw? c = none := by
  induction cs with
  | nil => simp [firstFlaw?]
  | cons c cs ih => simp [firstFlaw?, ih]

end Condition

end Arbiter
