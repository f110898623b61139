import Arbiter.Combining.Tally
import Arbiter.Policy.Basic

namespace Arbiter

/-- How targets and conditions are matched. -/
structure Matching where
  source : Source
  target : Matcher := .byValue
  condition : Matcher := .byValue

namespace Matching

/-- No target matches everything. -/
def matchTarget (m : Matching) (c : Option Condition) (ctx : Context) : MatchResult × Context :=
  match c with
  | none => (.matched, ctx)
  | some c => m.target.run m.source c ctx

def matchCondition (m : Matching) (c : Option Condition) (ctx : Context) : MatchResult × Context :=
  match c with
  | none => (.matched, ctx)
  | some c => m.condition.run m.source c ctx

end Matching

namespace Rule

/-- A rule decides its effect if its target and then its condition match. -/
def evaluate (m : Matching) (r : Rule) (ctx : Context) : Decision × Context :=
  match m.matchTarget r.target ctx with
  | (.unmatched, ctx) => (.notApplicable, ctx)
  | (.indeterminate, ctx) => (.indeterminate, ctx)
  | (.matched, ctx) =>
    match m.matchCondition r.condition ctx with
    | (.unmatched, ctx) => (.notApplicable, ctx)
    | (.indeterminate, ctx) => (.indeterminate, ctx)
    | (.matched, ctx) => (r.effect.decision, ctx)

end Rule

/-- What an overriding fold over rules keeps. -/
structure RuleTally where
  harvest : Harvest := []
  faults : Faults := {}
  /-- Whether a rule of the overridden effect decided. -/
  overridden : Bool := false
  /-- Whether a rule of the overriding effect was indeterminate, and so might have decided. -/
  potential : Bool := false

namespace RuleTally

def note (winner : Effect) (r : Rule) (d : Decision) (h : Harvest) (ctx : Context) (t : RuleTally) :
    RuleTally :=
  match d with
  | .notApplicable => { t with harvest := h }
  | .indeterminate =>
    { t with
      harvest := h
      faults := t.faults.record ctx
      potential := t.potential || r.effect = winner }
  | _ => { t with harvest := h, overridden := true }

def conclude (loser : Effect) (t : RuleTally) (ctx : Context) : Decision × Context :=
  if t.potential then t.faults.indeterminate ctx
  else if t.overridden then t.harvest.finish loser.decision ctx
  else if t.faults.isEmpty then t.harvest.finish .notApplicable ctx
  else t.faults.indeterminate ctx

end RuleTally

namespace Effect

def opposite : Effect → Effect
  | permit => deny
  | deny => permit

end Effect

namespace RuleAlgorithm

/-- The first rule that decides the overriding effect ends the fold. -/
def overrides (m : Matching) (winner : Effect) : List Rule → RuleTally → Context → Decision × Context
  | [], t, ctx => t.conclude winner.opposite ctx
  | r :: rs, t, ctx =>
    let (d, ctx) := r.evaluate m ctx.resetStatus
    let (h, ctx) := t.harvest.add r.obligations d ctx
    if d = winner.decision then h.finish d ctx
    else overrides m winner rs (t.note winner r d h ctx) ctx

/-- The first rule that applies ends the fold. -/
def firstApplicableOf (m : Matching) : List Rule → Context → Decision × Context
  | [], ctx => Harvest.finish [] .notApplicable ctx
  | r :: rs, ctx =>
    let (d, ctx) := r.evaluate m ctx.resetStatus
    match d with
    | .notApplicable => firstApplicableOf m rs ctx.clearObligations
    | .indeterminate => (Faults.record {} ctx).indeterminate ctx
    | d =>
      let (h, ctx) := Harvest.add [] r.obligations d ctx
      h.finish d ctx

/-- Combines rules that are all present. The ordered variants visit rules in the same order. -/
def fold (a : RuleAlgorithm) (m : Matching) (rs : List Rule) (ctx : Context) : Decision × Context :=
  match a with
  | denyOverrides | orderedDenyOverrides => overrides m .deny rs {} ctx
  | permitOverrides | orderedPermitOverrides => overrides m .permit rs {} ctx
  | firstApplicable => firstApplicableOf m rs ctx

/-- Combines a list of rules as a policy holds it. -/
def combine (a : RuleAlgorithm) (m : Matching) (slots : Option (List (Option Rule))) (ctx : Context) :
    Decision × Context :=
  match allPresent? slots with
  | none => ctx.illFormed
  | some rs => a.fold m rs ctx

end RuleAlgorithm

end Arbiter
