import Arbiter.Error
import Arbiter.Policy.Basic

namespace Arbiter

/-- Why a rule, policy or document is refused. -/
inductive Invalid where
  | emptyRuleId
  | emptyPolicyId
  | emptyPolicySetId
  | emptyReferenceId
  | condition (f : Condition.Flaw)
  /-- The rule at a position among the present rules of a policy. -/
  | rule (position : Nat) (cause : Invalid)
  | topLevelReference (id : String)
  | duplicateId (id : String)
  | notFound (id : String)
  deriving DecidableEq, Repr

/-- What makes a stored node indeterminate. -/
inductive Defect where
  | policyWithoutAlgorithm (id : String)
  | policyWithoutRules (id : String)
  | emptyRuleSlot (id : String) (position : Nat)
  | policySetWithoutAlgorithm (id : String)
  | policySetWithoutChildren (id : String)
  | emptyChildSlot (id : String) (position : Nat)
  deriving DecidableEq, Repr

namespace Invalid

def error : Invalid → Error
  | emptyRuleId => .validation "Rule ID cannot be empty" "id"
  | emptyPolicyId => .validation "Policy ID cannot be empty" "id"
  | emptyPolicySetId => .validation "Policy set ID cannot be empty" "id"
  | emptyReferenceId => .validation "Reference ID cannot be empty" "id"
  | condition f => .validation f.message
  | rule i cause => .validation ("Rule " ++ toString i ++ " validation failed: " ++ cause.error.text)
  | topLevelReference id =>
    .validation ("Reference to '" ++ id ++ "' cannot be loaded at top level") "kind"
  | duplicateId id => .validation ("Duplicate top-level id: " ++ id) "policies"
  | notFound id => .validation ("Evaluatable not found: " ++ id)

end Invalid

namespace Defect

def message : Defect → String
  | policyWithoutAlgorithm id => "policy " ++ id ++ " has no combining algorithm"
  | policyWithoutRules id => "policy " ++ id ++ " has no rule list"
  | emptyRuleSlot id i => "policy " ++ id ++ " has an empty rule slot at " ++ toString i
  | policySetWithoutAlgorithm id => "policy set " ++ id ++ " has no combining algorithm"
  | policySetWithoutChildren id => "policy set " ++ id ++ " has no child list"
  | emptyChildSlot id i => "policy set " ++ id ++ " has an empty child slot at " ++ toString i

end Defect

/-- The flaw of a target or condition, if there is one. -/
def conditionInvalid? (c : Option Condition) : Option Invalid :=
  (c.bind (·.flaw?)).map .condition

namespace Rule

def invalid? (r : Rule) : Option Invalid :=
  if r.id.isEmpty then some .emptyRuleId
  else (conditionInvalid? r.target).or (conditionInvalid? r.condition)

end Rule

namespace Policy

/-- The first rule that is refused, rules being counted from `i`. -/
def ruleInvalid? (i : Nat) : List Rule → Option Invalid
  | [] => none
  | r :: rs => (r.invalid?.map (.rule i)).or (ruleInvalid? (i + 1) rs)

def invalid? (p : Policy) : Option Invalid :=
  if p.id.isEmpty then some .emptyPolicyId
  else (conditionInvalid? p.target).or (ruleInvalid? 0 p.presentRules)

def emptySlots (id : String) (i : Nat) : List (Option Rule) → List Defect
  | [] => []
  | none :: slots => .emptyRuleSlot id i :: emptySlots id (i + 1) slots
  | some _ :: slots => emptySlots id (i + 1) slots

def ruleListDefects (p : Policy) : List Defect :=
  match p.rules with
  | none => [.policyWithoutRules p.id]
  | some slots => emptySlots p.id 0 slots

def defects (p : Policy) : List Defect :=
  (if p.algorithm.isNone then [.policyWithoutAlgorithm p.id] else []) ++ p.ruleListDefects

end Policy

namespace Node

mutual

def invalid? : Node → Option Invalid
  | policy p => p.invalid?
  | policySet h children =>
    if h.id.isEmpty then some .emptyPolicySetId
    else (conditionInvalid? h.target).or (childrenInvalid? children)
  | reference id => if id.isEmpty then some .emptyReferenceId else none

def childrenInvalid? : Option (List (Option Node)) → Option Invalid
  | none => none
  | some slots => slotsInvalid? slots

def slotsInvalid? : List (Option Node) → Option Invalid
  | [] => none
  | s :: slots => (slotInvalid? s).or (slotsInvalid? slots)

def slotInvalid? : Option Node → Option Invalid
  | none => none
  | some n => n.invalid?

end

mutual

/-- The defects of a node and of all beneath it. A reference has none: it names another node. -/
def defects : Node → List Defect
  | policy p => p.defects
  | policySet h children =>
    (if h.algorithm.isNone then [.policySetWithoutAlgorithm h.id] else []) ++
      childrenDefects h.id children
  | reference _ => []

def childrenDefects (set : String) : Option (List (Option Node)) → List Defect
  | none => [.policySetWithoutChildren set]
  | some slots => slotsDefects set 0 slots

def slotsDefects (set : String) (i : Nat) : List (Option Node) → List Defect
  | [] => []
  | s :: slots => slotDefects set i s ++ slotsDefects set (i + 1) slots

def slotDefects (set : String) (i : Nat) : Option Node → List Defect
  | none => [.emptyChildSlot set i]
  | some n => n.defects

end

/-- A node that is stored on its own must not be a reference. -/
def invalidAtTop? : Node → Option Invalid
  | reference id => some (.topLevelReference id)
  | n => n.invalid?

end Node

end Arbiter
