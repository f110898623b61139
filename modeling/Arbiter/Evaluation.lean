import Arbiter.Combining.Policies
import Arbiter.Combining.Rules

/-! Evaluating policy trees.

Trees are evaluated by recursion on their structure. A reference leads to a node outside the tree, and
how many references may still be opened bounds that. -/

namespace Arbiter

/-- All that an evaluation consults and does not change. -/
structure Scene where
  matching : Matching
  /-- The index that references are looked up in. -/
  resolve : String → Option Node := fun _ => none
  respectAbandoned : Bool := false

namespace Context

/-- A reference that leads nowhere, or too deep. -/
def referenceFault (ctx : Context) : Option Decision × Context :=
  (some .indeterminate, ((ctx.setTargetMatched false).clearObligations).report .processingError)

end Context

/-- Runs the rest of a node if its target matches, and notes whether it did. -/
def screened (m : Matching) (target : Option Condition) (rest : Context → Option Decision × Context)
    (ctx : Context) : Option Decision × Context :=
  match m.matchTarget target ctx with
  | (.unmatched, ctx) => (some .notApplicable, ctx.setTargetMatched false)
  | (.indeterminate, ctx) => (some .indeterminate, ctx.setTargetMatched false)
  | (.matched, ctx) =>
    match rest ctx with
    | (none, ctx) => (none, ctx)
    | (some d, ctx) => (some d, ctx.setTargetMatched true)

/-- Decides with an algorithm, if there is one. -/
def decideBy (algorithm : Option α) (combine : α → Context → Decision × Context) (ctx : Context) :
    Option Decision × Context :=
  match algorithm with
  | none => (none, ctx)
  | some a =>
    let (d, ctx) := combine a ctx
    (some d, ctx)

namespace Policy

def run (s : Scene) (p : Policy) (ctx : Context) : Option Decision × Context :=
  screened s.matching p.target
    (decideBy p.algorithm fun a ctx => a.combine s.matching p.rules ctx) ctx

end Policy

namespace PolicySetHeader

def run (s : Scene) (h : PolicySetHeader) (children : Option (List (Option Child))) (ctx : Context) :
    Option Decision × Context :=
  screened s.matching h.target
    (decideBy h.algorithm fun a ctx => a.combine s.respectAbandoned children ctx) ctx

end PolicySetHeader

namespace Scene

/-- Runs the node that a reference leads to. If it decides, the obligations it declares itself follow
those its evaluation left. -/
def follow (s : Scene) (childOf : Node → Child) (id : String) (ctx : Context) :
    Option Decision × Context :=
  match s.resolve id with
  | none => ctx.referenceFault
  | some node =>
    match ctx.enterReference? with
    | none => ctx.referenceFault
    | some ctx =>
      match (childOf node).run ctx with
      | (none, ctx) => (none, ctx.leaveReference)
      | (some d, ctx) =>
        match d.effect? with
        | none => (some d, ctx.leaveReference)
        | some e => (some d, ctx.leaveReference.addObligations node.obligations e)

end Scene

namespace Node

mutual

/-- A node as a combining algorithm sees it. The nodes that references lead to are run by `childOf`. -/
def child (s : Scene) (childOf : Node → Child) : Node → Child
  | policy p => ⟨p.obligations, p.carriesObligations, p.run s⟩
  | policySet h children =>
    ⟨h.obligations, (policySet h children).carriesObligations, h.run s (childrenOf s childOf children)⟩
  | reference id => ⟨[], true, s.follow childOf id⟩

def childrenOf (s : Scene) (childOf : Node → Child) :
    Option (List (Option Node)) → Option (List (Option Child))
  | none => none
  | some slots => some (slotsOf s childOf slots)

def slotsOf (s : Scene) (childOf : Node → Child) : List (Option Node) → List (Option Child)
  | [] => []
  | slot :: slots => slotOf s childOf slot :: slotsOf s childOf slots

def slotOf (s : Scene) (childOf : Node → Child) : Option Node → Option Child
  | none => none
  | some n => some (n.child s childOf)

end

end Node

namespace Scene

/-- A node as a child, when so many more references may be opened. The context counts open references
too and refuses the one past the last. -/
def childWithin (s : Scene) : Nat → Node → Child
  | 0, n => n.child s fun _ => ⟨[], true, Context.referenceFault⟩
  | k + 1, n => n.child s (s.childWithin k)

/-- How many more references may be opened. -/
def room (ctx : Context) : Nat := ctx.maxReferenceDepth - ctx.referenceDepth

/-- Evaluates one node, as a combining algorithm evaluates a child. -/
def evaluateNode (s : Scene) (n : Node) (ctx : Context) : Option Decision × Context :=
  (s.childWithin (room ctx) n).run ctx

def combineRules (s : Scene) (a : RuleAlgorithm) (slots : Option (List (Option Rule)))
    (ctx : Context) : Decision × Context :=
  a.combine s.matching slots ctx

def combineNodes (s : Scene) (a : PolicyAlgorithm) (slots : Option (List (Option Node)))
    (ctx : Context) : Decision × Context :=
  a.combine s.respectAbandoned (slots.map (·.map (·.map (s.childWithin (room ctx))))) ctx

end Scene

end Arbiter
