import Arbiter.Condition.Evaluation
import Arbiter.Obligation

namespace Arbiter

structure Context where
  maxReferenceDepth : Nat := 16
  referenceDepth : Nat := 0
  /-- The first code reported since the last reset. -/
  statusCode : StatusCode := .ok
  statusCodes : List StatusCode := []
  missing : List MissingAttribute := []
  obligations : List Obligation := []
  /-- Whether the target of the child evaluated last matched. -/
  targetMatched : Bool := false
  /-- What the attribute finder was asked for, in order. -/
  lookups : List Designator := []
  deriving DecidableEq

/-- How a target or condition turned out. -/
inductive MatchResult where
  | matched
  | unmatched
  | indeterminate
  deriving DecidableEq, Repr, Inhabited

namespace MatchResult

def all : List MatchResult := [matched, unmatched, indeterminate]

def name : MatchResult → String
  | matched => "Match"
  | unmatched => "NoMatch"
  | indeterminate => "Indeterminate"

def ofName? (s : String) : Option MatchResult :=
  all.find? (·.name = s)

def ofBool (b : Bool) : MatchResult := if b then matched else unmatched

end MatchResult

/-- Adds to a list what it does not hold yet. -/
def addNew [DecidableEq α] (xs : List α) (x : α) : List α :=
  if x ∈ xs then xs else xs ++ [x]

def addAllNew [DecidableEq α] (xs ys : List α) : List α := ys.foldl addNew xs

namespace Context

def resetStatus (ctx : Context) : Context :=
  { ctx with statusCode := .ok, statusCodes := [], missing := [] }

/-- Reports a code; `ok` is no news. -/
def report (ctx : Context) (c : StatusCode) : Context :=
  if c.isOk then ctx
  else
    { ctx with
      statusCode := if ctx.statusCode.isOk then c else ctx.statusCode
      statusCodes := ctx.statusCodes ++ [c] }

def reportAll (ctx : Context) (cs : List StatusCode) : Context := cs.foldl report ctx

def setMissing (ctx : Context) (ms : List MissingAttribute) : Context := { ctx with missing := ms }

def addMissing (ctx : Context) (m : MissingAttribute) : Context :=
  { ctx with missing := addNew ctx.missing m }

/-- Adds those of the obligations that are bound to the effect. -/
def addObligations (ctx : Context) (os : List Obligation) (e : Effect) : Context :=
  { ctx with obligations := ctx.obligations ++ obligationsFor e os }

def clearObligations (ctx : Context) : Context := { ctx with obligations := [] }

def setTargetMatched (ctx : Context) (b : Bool) : Context := { ctx with targetMatched := b }

/-- Opens a reference, if one more may be open. -/
def enterReference? (ctx : Context) : Option Context :=
  if ctx.referenceDepth < ctx.maxReferenceDepth then
    some { ctx with referenceDepth := ctx.referenceDepth + 1 }
  else none

def leaveReference (ctx : Context) : Context :=
  { ctx with referenceDepth := ctx.referenceDepth - 1 }

/-- Takes over the outcome of a condition: a fault is reported, and an attribute that it missed noted. -/
def record (ctx : Context) (o : Outcome Bool) : MatchResult × Context :=
  let ctx := { ctx with lookups := ctx.lookups ++ o.lookups }
  match o.result with
  | .ok b => (.ofBool b, ctx)
  | .error f =>
    let ctx := ctx.report f.error.status
    match f.error with
    | .missingAttribute m => (.indeterminate, ctx.addMissing m)
    | _ => (.indeterminate, ctx)

end Context

/-- Decides whether a condition matches, by its truth value or always alike. -/
inductive Matcher where
  | byValue
  | always (m : MatchResult)
  deriving DecidableEq, Repr, Inhabited

namespace Matcher

/-- One that always answers alike leaves the context as it is. -/
def run (m : Matcher) (s : Source) (c : Condition) (ctx : Context) : MatchResult × Context :=
  match m with
  | byValue => ctx.record (c.evaluate s)
  | always r => (r, ctx)

end Matcher

end Arbiter
