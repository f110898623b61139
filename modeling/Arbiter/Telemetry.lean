import Arbiter.Cache
import Arbiter.Settings.Basic

namespace Arbiter

/-- The counts never wrap here, as 64-bit words would after 2^64 of what they count. -/
structure Telemetry where
  settings : TelemetrySettings := {}
  permit : Nat := 0
  deny : Nat := 0
  notApplicable : Nat := 0
  indeterminate : Nat := 0
  cacheHits : Nat := 0
  cacheMisses : Nat := 0
  errors : Nat := 0
  /-- The time of all evaluations in microseconds, in a 64-bit word that wraps. -/
  totalMicros : Nat := 0
  deriving DecidableEq

namespace Telemetry

def countDecision (t : Telemetry) : Decision → Telemetry
  | .permit => { t with permit := t.permit + 1 }
  | .deny => { t with deny := t.deny + 1 }
  | .notApplicable => { t with notApplicable := t.notApplicable + 1 }
  | .indeterminate => { t with indeterminate := t.indeterminate + 1 }

def addMicros (t : Telemetry) (ms : Binary64) : Telemetry :=
  { t with totalMicros := (t.totalMicros + (ms.mul (.ofNat 1000)).toWord) % Nat.pow 2 64 }

def recordEvaluation (t : Telemetry) (d : Decision) (ms : Binary64) : Telemetry :=
  (t.countDecision d).addMicros ms

def recordLookup (t : Telemetry) (hit : Bool) : Telemetry :=
  if hit then { t with cacheHits := t.cacheHits + 1 } else { t with cacheMisses := t.cacheMisses + 1 }

def recordError (t : Telemetry) : Telemetry := { t with errors := t.errors + 1 }

def totalEvaluations (t : Telemetry) : Nat := t.permit + t.deny + t.notApplicable + t.indeterminate

def averageMs (t : Telemetry) : Binary64 :=
  if t.totalEvaluations = 0 then .zero
  else ((Binary64.ofNat t.totalMicros).div (.ofNat t.totalEvaluations)).div (.ofNat 1000)

end Telemetry

end Arbiter
