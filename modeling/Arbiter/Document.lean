import Arbiter.Policy.Validity

namespace Arbiter

structure Document where
  apiVersion : String := "pdp.xacml.io/v1"
  kind : String := "PolicyDocument"
  policies : List Node := []
  deriving DecidableEq

namespace Document

/-- The first node that is refused or repeats an id, ids before it being `seen`. -/
def invalidAmong? (seen : List String) : List Node → Option Invalid
  | [] => none
  | n :: ns =>
    n.invalidAtTop?.or
      (if n.id ∈ seen then some (.duplicateId n.id) else invalidAmong? (n.id :: seen) ns)

def invalid? (d : Document) : Option Invalid := invalidAmong? [] d.policies

def defects (d : Document) : List Defect := d.policies.flatMap (·.defects)

def addPolicy (d : Document) (n : Node) : Document := { d with policies := d.policies ++ [n] }

/-- The first node of that id. -/
def find? (d : Document) (id : String) : Option Node := d.policies.find? (·.id = id)

end Document

end Arbiter
