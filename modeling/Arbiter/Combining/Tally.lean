import Arbiter.Context

namespace Arbiter

/-- The obligations gathered so far, each with the effect that the child it came from decided. -/
abbrev Harvest := List (Effect × Obligation)

/-- Status codes and missing attributes of indeterminate children. -/
structure Faults where
  codes : List StatusCode := []
  missing : List MissingAttribute := []
  deriving DecidableEq

namespace Context

/-- The result of a fold over an ill-formed list: a syntax error and nothing else. -/
def illFormed (ctx : Context) : Decision × Context :=
  (.indeterminate, (ctx.clearObligations.resetStatus).report .syntaxError)

end Context

namespace Harvest

/-- Takes what a child that decided declares and then what its evaluation left on the context. The
context keeps no obligations, whatever the child decided. -/
def add (h : Harvest) (declared : List Obligation) (d : Decision) (ctx : Context) : Harvest × Context :=
  match d.effect? with
  | none => (h, ctx.clearObligations)
  | some e => (h ++ (obligationsFor e declared ++ ctx.obligations).map (e, ·), ctx.clearObligations)

/-- The obligations that children of one effect brought. -/
def ofEffect (e : Effect) (h : Harvest) : List Obligation :=
  (h.filter (·.1 = e)).map (·.2)

/-- Ends a fold that decided, or to which nothing applied. -/
def finish (h : Harvest) (d : Decision) (ctx : Context) : Decision × Context :=
  let ctx := ctx.resetStatus.clearObligations
  match d.effect? with
  | none => (d, ctx)
  | some e => (d, ctx.addObligations (h.ofEffect e) e)

end Harvest

namespace Faults

def isEmpty (f : Faults) : Bool := f.codes.isEmpty

/-- Notes an indeterminate child. One that left no code counts as a processing error. -/
def record (f : Faults) (ctx : Context) : Faults where
  codes := f.codes ++ (if ctx.statusCodes.isEmpty then [.processingError] else ctx.statusCodes)
  missing := addAllNew f.missing ctx.missing

/-- Ends a fold that is indeterminate for the faults recorded. -/
def indeterminate (f : Faults) (ctx : Context) : Decision × Context :=
  (.indeterminate, (ctx.clearObligations.resetStatus.reportAll f.codes).setMissing f.missing)

end Faults

end Arbiter
