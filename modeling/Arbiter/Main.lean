import Arbiter.CommandLine.Run

namespace Arbiter.CommandLine

/-- The files of the machine. -/
def systemFiles : FileAccess IO where
  text path :=
    try return some (← IO.FS.readFile path)
    catch _ => return none
  names path :=
    try
      let mut names := []
      for entry in ← (← IO.FS.realPath path).readDir do
        if (← entry.path.metadata).type == .file then names := entry.fileName :: names
      return some names
    catch _ => return none

/-- The variables of the environment that count. -/
def variableNames : List String := [
  "PDP_CONFIG_FILE", "PDP_POLICY_DIR", "PDP_LOG_LEVEL", "RUST_LOG",
  "PDP__ENGINE__RESPECT_ABANDONED_EVALUATABLES", "PDP__ENGINE__ROOT_COMBINING_ALGORITHM",
  "PDP__ENGINE__MAX_REFERENCE_DEPTH", "PDP__CACHE__ENABLED", "PDP__CACHE__L1_MAX_ENTRIES",
  "PDP__CACHE__L1_TTL_SECS", "PDP__TELEMETRY__ENABLED", "PDP__TELEMETRY__SERVICE_NAME",
  "PDP__TELEMETRY__LOG_LEVEL", "PDP__TELEMETRY__JSON_LOGS"]

def systemVariables : IO (List (String × String)) :=
  variableNames.filterMapM fun name => do return (← IO.getEnv name).map (name, ·)

/-- Answers a request and notes how long that took. -/
def timed (e : Engine) (r : Request) : IO Response := do
  let start ← IO.monoNanosNow
  let response ← IO.lazyPure fun _ => (e.evaluate {} r).1.response
  let elapsed := (← IO.monoNanosNow) - start
  return { response with evaluationTimeMs := .ofRatio false (elapsed * Binary64.one) 1000000 }

def usage : String := "\n".intercalate [
  "Evaluate a decision request against XACML-style policies", "",
  "Usage: pdp [OPTIONS] --request <REQUEST>", "",
  "Options:",
  "  -c, --config <CONFIG>                  Configuration file path [env: PDP_CONFIG_FILE=]",
  "  -f, --policy-file <POLICY_FILES>       Policy file to load (repeatable)",
  "  -d, --policy-dir <POLICY_DIR>          Directory of policy files [env: PDP_POLICY_DIR=]",
  "  -r, --request <REQUEST>                Request file (JSON or YAML)",
  "      --root-algorithm <ROOT_ALGORITHM>  URN of the algorithm combining the top-level policies",
  "      --respect-abandoned                Keep evaluating to collect obligations",
  "      --log-level <LOG_LEVEL>            Log level [env: PDP_LOG_LEVEL=]",
  "      --json-logs                        Enable JSON log format",
  "  -h, --help                             Print help",
  "  -V, --version                          Print version"]

def report : Outcome → IO Unit
  | .answered r => IO.println (printed r)
  | .failed e => IO.eprintln ("Error: " ++ e.text)
  | .halted .help => IO.println usage
  | .halted .version => IO.println "pdp 0.1.0"
  | .halted .misuse => IO.eprintln usage

end Arbiter.CommandLine

open Arbiter.CommandLine

def main (arguments : List String) : IO UInt32 := do
  let outcome ← run systemFiles timed (← systemVariables) arguments
  report outcome
  return outcome.exitCode.toUInt32
