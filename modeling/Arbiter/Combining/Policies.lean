import Arbiter.Combining.Tally
import Arbiter.Combining.Algorithm
import Arbiter.Policy.Basic

namespace Arbiter

structure Child where
  /-- The obligations the child declares itself. -/
  declared : List Obligation
  /-- Whether running it may bring obligations. -/
  carries : Bool
  /-- There is no decision if a node that was reached has no combining algorithm. -/
  run : Context → Option Decision × Context

/-- What an overriding fold over children keeps. -/
structure ChildTally where
  harvest : Harvest := []
  faults : Faults := {}
  permitted : Bool := false
  denied : Bool := false

namespace ChildTally

def has (t : ChildTally) : Effect → Bool
  | .permit => t.permitted
  | .deny => t.denied

def note (d : Decision) (h : Harvest) (ctx : Context) (t : ChildTally) : ChildTally :=
  match d with
  | .permit => { t with harvest := h, permitted := true }
  | .deny => { t with harvest := h, denied := true }
  | .notApplicable => { t with harvest := h }
  | .indeterminate => { t with harvest := h, faults := t.faults.record ctx }

/-- Deny outranks faults and faults permit, but both effects outrank faults where permit overrides. -/
def conclude (winner : Effect) (t : ChildTally) (ctx : Context) : Decision × Context :=
  match winner with
  | .deny =>
    if t.denied then t.harvest.finish .deny ctx
    else if !t.faults.isEmpty then t.faults.indeterminate ctx
    else if t.permitted then t.harvest.finish .permit ctx
    else t.harvest.finish .notApplicable ctx
  | .permit =>
    if t.permitted then t.harvest.finish .permit ctx
    else if t.denied then t.harvest.finish .deny ctx
    else if !t.faults.isEmpty then t.faults.indeterminate ctx
    else t.harvest.finish .notApplicable ctx

end ChildTally

/-- The one applicable child found so far. -/
structure Selection where
  decision : Decision
  harvest : Harvest
  faults : Faults

namespace PolicyAlgorithm

/-- The overriding effect ends the fold at once, or if abandoned children are respected, once those
that may still bring obligations have been visited too. -/
def overrides (winner : Effect) (respectAbandoned : Bool) :
    List Child → ChildTally → Context → Decision × Context
  | [], t, ctx => t.conclude winner ctx
  | c :: cs, t, ctx =>
    if t.has winner && !c.carries then overrides winner respectAbandoned cs t ctx
    else
      match c.run ctx.resetStatus with
      | (none, ctx) => ctx.illFormed
      | (some d, ctx) =>
        let (h, ctx) := t.harvest.add c.declared d ctx
        if d = winner.decision ∧ respectAbandoned = false then h.finish d ctx
        else overrides winner respectAbandoned cs (t.note d h ctx) ctx

/-- The first child that applies ends the fold. -/
def firstApplicableOf : List Child → Context → Decision × Context
  | [], ctx => Harvest.finish [] .notApplicable ctx
  | c :: cs, ctx =>
    match c.run ctx.resetStatus with
    | (none, ctx) => ctx.illFormed
    | (some .notApplicable, ctx) => firstApplicableOf cs ctx.clearObligations
    | (some .indeterminate, ctx) => (Faults.record {} ctx).indeterminate ctx
    | (some d, ctx) =>
      let (h, ctx) := Harvest.add [] c.declared d ctx
      h.finish d ctx

/-- Ends the search for the one applicable child. -/
def concludeSelection (s : Option Selection) (ctx : Context) : Decision × Context :=
  match s with
  | none => Harvest.finish [] .notApplicable ctx
  | some s =>
    match s.decision with
    | .indeterminate => s.faults.indeterminate ctx
    | d => s.harvest.finish d ctx

/-- More than one child is applicable. -/
def ambiguous (ctx : Context) : Decision × Context :=
  (.indeterminate, (ctx.clearObligations.resetStatus).report .processingError)

/-- A child is applicable if its target matches. -/
def onlyOneApplicableOf : List Child → Option Selection → Context → Decision × Context
  | [], s, ctx => concludeSelection s ctx
  | c :: cs, s, ctx =>
    match c.run ctx.resetStatus with
    | (none, ctx) => ctx.illFormed
    | (some d, ctx) =>
      if ctx.targetMatched = false then
        if d = .notApplicable then onlyOneApplicableOf cs s ctx.clearObligations
        else (Faults.record {} ctx).indeterminate ctx
      else if s.isSome then ambiguous ctx
      else
        let faults := if d = .indeterminate then Faults.record {} ctx else {}
        let (h, ctx) := Harvest.add [] c.declared d ctx
        onlyOneApplicableOf cs (some ⟨d, h, faults⟩) ctx

/-- Combines children that are all present. The ordered variants visit children in the same order. -/
def fold (a : PolicyAlgorithm) (respectAbandoned : Bool) (cs : List Child) (ctx : Context) :
    Decision × Context :=
  match a with
  | denyOverrides | orderedDenyOverrides => overrides .deny respectAbandoned cs {} ctx
  | permitOverrides | orderedPermitOverrides => overrides .permit respectAbandoned cs {} ctx
  | firstApplicable => firstApplicableOf cs ctx
  | onlyOneApplicable => onlyOneApplicableOf cs none ctx

/-- Combines a list of children as a policy set holds it. -/
def combine (a : PolicyAlgorithm) (respectAbandoned : Bool) (slots : Option (List (Option Child)))
    (ctx : Context) : Decision × Context :=
  match allPresent? slots with
  | none => ctx.illFormed
  | some cs => a.fold respectAbandoned cs ctx

end PolicyAlgorithm

end Arbiter
