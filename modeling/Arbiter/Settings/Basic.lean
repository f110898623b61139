import Arbiter.Combining.Algorithm
import Arbiter.Error

namespace Arbiter

structure EngineSettings where
  respectAbandoned : Bool := false
  rootAlgorithm : PolicyAlgorithm := .denyOverrides
  maxReferenceDepth : Nat := 16
  deriving DecidableEq, Repr

structure CacheSettings where
  enabled : Bool := false
  maxEntries : Nat := 10000
  ttlSeconds : Nat := 300
  deriving DecidableEq, Repr

structure TelemetrySettings where
  enabled : Bool := true
  serviceName : String := "xacml-pdp"
  logLevel : String := "info"
  jsonLogs : Bool := false
  deriving DecidableEq, Repr

structure Settings where
  engine : EngineSettings := {}
  cache : CacheSettings := {}
  telemetry : TelemetrySettings := {}
  deriving DecidableEq, Repr

/-- The blanks that do not count as part of a name, those beyond the Latin alphabets included. -/
def isBlankChar (c : Char) : Bool :=
  let n := c.toNat
  (9 ≤ n && n ≤ 13) || n = 0x20 || n = 0x85 || n = 0xA0 || n = 0x1680 || (0x2000 ≤ n && n ≤ 0x200A) ||
    n = 0x2028 || n = 0x2029 || n = 0x202F || n = 0x205F || n = 0x3000

namespace Settings

/-- Why settings are refused. -/
inductive Flaw where
  | noCapacity
  | noReferenceDepth
  | noServiceName
  deriving DecidableEq, Repr

def Flaw.error : Flaw → Error
  | noCapacity =>
    .config "Cache capacity must be positive when the cache is enabled" "cache.l1_max_entries"
  | noReferenceDepth => .config "Reference depth must be positive" "engine.max_reference_depth"
  | noServiceName => .config "Service name cannot be empty" "telemetry.service_name"

def flaw? (s : Settings) : Option Flaw :=
  if s.cache.enabled ∧ s.cache.maxEntries = 0 then some .noCapacity
  else if s.engine.maxReferenceDepth = 0 then some .noReferenceDepth
  else if s.telemetry.serviceName.toList.all isBlankChar then some .noServiceName
  else none

end Settings

end Arbiter
