namespace Arbiter

inductive Effect where
  | permit
  | deny
  deriving DecidableEq, Repr, Inhabited

inductive Decision where
  | permit
  | deny
  | notApplicable
  | indeterminate
  deriving DecidableEq, Repr, Inhabited

namespace Effect

def name : Effect → String
  | permit => "Permit"
  | deny => "Deny"

def ofName? (s : String) : Option Effect :=
  [permit, deny].find? (·.name = s)

def decision : Effect → Decision
  | permit => .permit
  | deny => .deny

@[simp] theorem ofName?_name (e : Effect) : ofName? e.name = some e := by
  cases e <;> rfl

end Effect

namespace Decision

def all : List Decision := [permit, deny, notApplicable, indeterminate]

def name : Decision → String
  | permit => "Permit"
  | deny => "Deny"
  | notApplicable => "NotApplicable"
  | indeterminate => "Indeterminate"

def ofName? (s : String) : Option Decision :=
  all.find? (·.name = s)

/-- Reads a decision as people spell it: in any case, the two words with or without an underscore. -/
def ofText? (s : String) : Option Decision :=
  match s.toLower with
  | "permit" => some permit
  | "deny" => some deny
  | "notapplicable" | "not_applicable" => some notApplicable
  | "indeterminate" => some indeterminate
  | _ => none

/-- The effect a decision carries out, if it decides anything. -/
def effect? : Decision → Option Effect
  | permit => some .permit
  | deny => some .deny
  | notApplicable => none
  | indeterminate => none

@[simp] theorem ofName?_name (d : Decision) : ofName? d.name = some d := by
  cases d <;> rfl

@[simp] theorem effect?_decision (e : Effect) : e.decision.effect? = some e := by
  cases e <;> rfl

end Decision

end Arbiter
