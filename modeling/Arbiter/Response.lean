import Arbiter.Context

namespace Arbiter

structure Response where
  requestId : String := ""
  decision : Decision
  statusCode : StatusCode
  statusCodes : List StatusCode := []
  missing : List MissingAttribute := []
  obligations : List Obligation := []
  evaluationTimeMs : Binary64 := .zero
  cached : Bool := false
  deriving DecidableEq

namespace Response

/-- The response to a finished evaluation. Only an indeterminate one tells why, and only one that
decided brings obligations. -/
def ofContext (requestId : String) (d : Decision) (ctx : Context) : Response :=
  let obligations := if d.effect?.isSome then ctx.obligations else []
  if d = .indeterminate then
    { requestId, decision := d, statusCode := ctx.statusCode, statusCodes := ctx.statusCodes,
      missing := ctx.missing, obligations }
  else { requestId, decision := d, statusCode := .ok, obligations }

def isPermit (r : Response) : Bool := r.decision = .permit

def obligationIds (r : Response) : List String := r.obligations.map (·.id)

end Response

end Arbiter
