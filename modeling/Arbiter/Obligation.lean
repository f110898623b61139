import Arbiter.Decision
import Arbiter.Json.Basic

namespace Arbiter

structure Assignment where
  attributeId : String
  value : Json
  deriving DecidableEq

structure Obligation where
  id : String
  fulfillOn : Effect
  assignments : List Assignment := []
  deriving DecidableEq

namespace Obligation

def appliesTo (o : Obligation) (e : Effect) : Bool := o.fulfillOn = e

end Obligation

/-- The obligations bound to an effect, in their order. -/
def obligationsFor (e : Effect) (os : List Obligation) : List Obligation :=
  os.filter (·.appliesTo e)

@[simp] theorem obligationsFor_nil (e : Effect) : obligationsFor e [] = [] := rfl

theorem mem_obligationsFor {e : Effect} {o : Obligation} {os : List Obligation} :
    o ∈ obligationsFor e os ↔ o ∈ os ∧ o.fulfillOn = e := by
  simp [obligationsFor, Obligation.appliesTo]

end Arbiter
