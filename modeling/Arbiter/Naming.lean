import Arbiter.Combining.Algorithm
import Arbiter.Decision
import Arbiter.Error

namespace Arbiter

def knownAs (what name : String) : Option α → Except Error α
  | some a => .ok a
  | none => .error (.parse ("Unknown " ++ what ++ ": " ++ name))

def Decision.named (name : String) : Except Error Decision :=
  knownAs "decision" name (Decision.ofText? name)

def RuleAlgorithm.named (urn : String) : Except Error RuleAlgorithm :=
  knownAs "rule combining algorithm" urn (RuleAlgorithm.ofUrn? urn)

def PolicyAlgorithm.named (urn : String) : Except Error PolicyAlgorithm :=
  knownAs "policy combining algorithm" urn (PolicyAlgorithm.ofUrn? urn)

end Arbiter
