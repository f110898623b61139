import Arbiter.Condition.Comparison
import Arbiter.Request

/-! The truth value of a condition for a request.

A comparison holds of a bag if it holds of some value in it, the negative ones if their positive
partner does not. A bag that the request leaves empty is asked of the attribute finder. -/

namespace Arbiter

/-- A source of attribute values outside the request. -/
abbrev Finder := Designator → Request → Except Error (List Json)

namespace Finder

/-- A finder that knows these values. It does not look at whether an attribute must be present. -/
def ofValues (table : List (Designator × Json)) : Finder := fun d _ =>
  .ok ((table.filter fun e => { e.1 with mustBePresent := false } = { d with mustBePresent := false }).map
    (·.2))

end Finder

/-- Where attribute values come from. -/
structure Source where
  request : Request
  finder : Option Finder := none

/-- A result, together with the designators the finder was asked for, in order. -/
structure Outcome (α : Type) where
  result : Except Fault α
  lookups : List Designator := []

namespace Outcome

def pure (a : α) : Outcome α := ⟨.ok a, []⟩

def fault (f : Fault) : Outcome α := ⟨.error f, []⟩

def bind (o : Outcome α) (f : α → Outcome β) : Outcome β :=
  match o.result with
  | .ok a =>
    let next := f a
    ⟨next.result, o.lookups ++ next.lookups⟩
  | .error e => ⟨.error e, o.lookups⟩

def negate (o : Outcome Bool) : Outcome Bool := o.bind fun b => pure (!b)

end Outcome

namespace Source

/-- What the finder knows, where there is one. -/
def find (s : Source) (d : Designator) : Outcome (List Json) :=
  match s.finder with
  | none => .pure []
  | some f =>
    match f d s.request with
    | .ok values => ⟨.ok values, [d]⟩
    | .error e => ⟨.error (.finder e), [d]⟩

/-- The values a designator stands for: those of the request, or else those of the finder. -/
def values (s : Source) (d : Designator) : Outcome (List Json) :=
  let bag := s.request.bag d
  if bag.isEmpty then s.find d else .pure bag

/-- The bag of a designator, which may have to hold something. -/
def bag (s : Source) (d : Designator) : Outcome (List Json) :=
  (s.values d).bind fun bag =>
    if bag.isEmpty && d.mustBePresent then .fault (.missing d.missing) else .pure bag

end Source

/-- Whether a test holds of some value. The first that passes or faults decides. -/
def anyHolds (t : Test) (b : Operand) : List Json → Except Fault Bool
  | [] => .ok false
  | a :: as =>
    match t.holds a b with
    | .ok false => anyHolds t b as
    | r => r

namespace Condition

/-- Compares a bag with an operand, if the condition has one. -/
def judge (o : Operator) (operand : Option Operand) (bag : List Json) : Except Fault Bool :=
  match o, operand with
  | .present, _ => .ok (!bag.isEmpty)
  | .absent, _ => .ok bag.isEmpty
  | .test t, some b => anyHolds t b bag
  | .notEquals, some b => .ok (!bag.any (equalValue · b))
  | .notWithin, some b => .ok (!bag.any (isCandidate · b))
  | _, _ => .error (.noOperand o)

def evaluateTest (s : Source) (o : Operator) (d? : Option Designator) (operand : Option Operand) :
    Outcome Bool :=
  match d? with
  | none => .fault .noDesignator
  | some d => (s.bag d).bind fun bag => ⟨judge o operand bag, []⟩

mutual

/-- The truth value of a condition. Connectives look at their conditions from left to right, and only
as far as they must. -/
def evaluate (s : Source) : Condition → Outcome Bool
  | ⟨.and, _, _, cs⟩ => evaluateAll s cs
  | ⟨.or, _, _, cs⟩ => evaluateAny s cs
  | ⟨.not, _, _, cs⟩ => evaluateNegated s cs
  | ⟨o, d?, operand, _⟩ => evaluateTest s o d? operand

def evaluateAll (s : Source) : List Condition → Outcome Bool
  | [] => .pure true
  | c :: cs => (evaluate s c).bind fun b => if b then evaluateAll s cs else .pure false

def evaluateAny (s : Source) : List Condition → Outcome Bool
  | [] => .pure false
  | c :: cs => (evaluate s c).bind fun b => if b then .pure true else evaluateAny s cs

def evaluateNegated (s : Source) : List Condition → Outcome Bool
  | [] => .fault .noNested
  | c :: _ => (evaluate s c).negate

end

end Condition

end Arbiter
