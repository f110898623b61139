import Arbiter.Format.Record
import Arbiter.Settings.Basic

namespace Arbiter

/-- How the values of settings are read. -/
structure Settings.Reading where
  bool? : Json → Option Bool
  natural? : Json → Option Nat
  text? : Json → Option String
  algorithm? : Json → Option PolicyAlgorithm

/-- Each value is of the type that it is read as. -/
def Settings.Reading.strict : Settings.Reading :=
  ⟨Json.bool?, Json.natural?, Json.string?, Json.word? PolicyAlgorithm.ofUrn?⟩

namespace EngineSettings

def toJson (s : EngineSettings) : Json :=
  .record [
    ("respect_abandoned_evaluatables", some (.bool s.respectAbandoned)),
    ("root_combining_algorithm", some (.string s.rootAlgorithm.urn)),
    ("max_reference_depth", some (.integer s.maxReferenceDepth))]

def ofJsonBy? (r : Settings.Reading) (j : Json) : Option EngineSettings := do
  let ms ← j.members?
  return {
    respectAbandoned := ← Json.withDefault "respect_abandoned_evaluatables" false r.bool? ms
    rootAlgorithm := ← Json.withDefault "root_combining_algorithm" .denyOverrides r.algorithm? ms
    maxReferenceDepth := ← Json.withDefault "max_reference_depth" 16 r.natural? ms }

end EngineSettings

namespace CacheSettings

def toJson (s : CacheSettings) : Json :=
  .record [
    ("enabled", some (.bool s.enabled)),
    ("l1_max_entries", some (.integer s.maxEntries)),
    ("l1_ttl_secs", some (.integer s.ttlSeconds))]

def ofJsonBy? (r : Settings.Reading) (j : Json) : Option CacheSettings := do
  let ms ← j.members?
  return {
    enabled := ← Json.withDefault "enabled" false r.bool? ms
    maxEntries := ← Json.withDefault "l1_max_entries" 10000 r.natural? ms
    ttlSeconds := ← Json.withDefault "l1_ttl_secs" 300 r.natural? ms }

end CacheSettings

namespace TelemetrySettings

def toJson (s : TelemetrySettings) : Json :=
  .record [
    ("enabled", some (.bool s.enabled)),
    ("service_name", some (.string s.serviceName)),
    ("log_level", some (.string s.logLevel)),
    ("json_logs", some (.bool s.jsonLogs))]

def ofJsonBy? (r : Settings.Reading) (j : Json) : Option TelemetrySettings := do
  let ms ← j.members?
  return {
    enabled := ← Json.withDefault "enabled" true r.bool? ms
    serviceName := ← Json.withDefault "service_name" "xacml-pdp" r.text? ms
    logLevel := ← Json.withDefault "log_level" "info" r.text? ms
    jsonLogs := ← Json.withDefault "json_logs" false r.bool? ms }

def ofJson? : Json → Option TelemetrySettings := ofJsonBy? .strict

end TelemetrySettings

namespace Settings

def toJson (s : Settings) : Json :=
  .record [
    ("engine", some s.engine.toJson),
    ("cache", some s.cache.toJson),
    ("telemetry", some s.telemetry.toJson)]

def ofJsonBy? (r : Settings.Reading) (j : Json) : Option Settings := do
  let ms ← j.members?
  return {
    engine := ← Json.withDefault "engine" {} (EngineSettings.ofJsonBy? r) ms
    cache := ← Json.withDefault "cache" {} (CacheSettings.ofJsonBy? r) ms
    telemetry := ← Json.withDefault "telemetry" {} (TelemetrySettings.ofJsonBy? r) ms }

def ofJson? : Json → Option Settings := ofJsonBy? .strict

end Settings

end Arbiter
