namespace Arbiter

/-- How a policy combines its rules. -/
inductive RuleAlgorithm where
  | denyOverrides
  | permitOverrides
  | firstApplicable
  | orderedDenyOverrides
  | orderedPermitOverrides
  deriving DecidableEq, Repr, Inhabited

/-- How a policy set combines its children. -/
inductive PolicyAlgorithm where
  | denyOverrides
  | permitOverrides
  | firstApplicable
  | onlyOneApplicable
  | orderedDenyOverrides
  | orderedPermitOverrides
  deriving DecidableEq, Repr, Inhabited

namespace RuleAlgorithm

def all : List RuleAlgorithm :=
  [denyOverrides, permitOverrides, firstApplicable, orderedDenyOverrides, orderedPermitOverrides]

def urn : RuleAlgorithm → String
  | denyOverrides => "urn:oasis:names:tc:xacml:1.0:rule-combining-algorithm:deny-overrides"
  | permitOverrides => "urn:oasis:names:tc:xacml:1.0:rule-combining-algorithm:permit-overrides"
  | firstApplicable => "urn:oasis:names:tc:xacml:1.0:rule-combining-algorithm:first-applicable"
  | orderedDenyOverrides =>
    "urn:oasis:names:tc:xacml:1.1:rule-combining-algorithm:ordered-deny-overrides"
  | orderedPermitOverrides =>
    "urn:oasis:names:tc:xacml:1.1:rule-combining-algorithm:ordered-permit-overrides"

def ofUrn? (s : String) : Option RuleAlgorithm :=
  all.find? (·.urn = s)

def isOrdered : RuleAlgorithm → Bool
  | orderedDenyOverrides | orderedPermitOverrides => true
  | _ => false

@[simp] theorem ofUrn?_urn (a : RuleAlgorithm) : ofUrn? a.urn = some a := by
  cases a <;> rfl

end RuleAlgorithm

namespace PolicyAlgorithm

def all : List PolicyAlgorithm :=
  [denyOverrides, permitOverrides, firstApplicable, onlyOneApplicable, orderedDenyOverrides,
    orderedPermitOverrides]

def urn : PolicyAlgorithm → String
  | denyOverrides => "urn:oasis:names:tc:xacml:1.0:policy-combining-algorithm:deny-overrides"
  | permitOverrides => "urn:oasis:names:tc:xacml:1.0:policy-combining-algorithm:permit-overrides"
  | firstApplicable => "urn:oasis:names:tc:xacml:1.0:policy-combining-algorithm:first-applicable"
  | onlyOneApplicable => "urn:oasis:names:tc:xacml:1.0:policy-combining-algorithm:only-one-applicable"
  | orderedDenyOverrides =>
    "urn:oasis:names:tc:xacml:1.1:policy-combining-algorithm:ordered-deny-overrides"
  | orderedPermitOverrides =>
    "urn:oasis:names:tc:xacml:1.1:policy-combining-algorithm:ordered-permit-overrides"

def ofUrn? (s : String) : Option PolicyAlgorithm :=
  all.find? (·.urn = s)

def isOrdered : PolicyAlgorithm → Bool
  | orderedDenyOverrides | orderedPermitOverrides => true
  | _ => false

@[simp] theorem ofUrn?_urn (a : PolicyAlgorithm) : ofUrn? a.urn = some a := by
  cases a <;> rfl

end PolicyAlgorithm

end Arbiter
