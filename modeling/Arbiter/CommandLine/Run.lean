import Arbiter.CommandLine.Arguments
import Arbiter.CommandLine.FileAccess
import Arbiter.CommandLine.LogFilter
import Arbiter.Engine
import Arbiter.Settings.Loading

namespace Arbiter.CommandLine

/-- How a run ends. -/
inductive Outcome where
  | halted (h : Arguments.Halt)
  | failed (e : Error)
  | answered (r : Response)

def Outcome.exitCode : Outcome → Nat
  | halted .misuse => 2
  | failed _ => 1
  | halted _ | answered _ => 0

/-- The settings with what the arguments override. -/
def override (a : Arguments) (s : Settings) : Settings where
  engine :=
    { s.engine with
      respectAbandoned := s.engine.respectAbandoned || a.respectAbandoned
      rootAlgorithm := a.rootAlgorithm.getD s.engine.rootAlgorithm }
  cache := s.cache
  telemetry :=
    { s.telemetry with
      logLevel := a.logLevel.getD s.telemetry.logLevel
      jsonLogs := s.telemetry.jsonLogs || a.jsonLogs }

/-- Refuses a log level that is no filter, unless the environment has one that is. -/
def checkLogging (environment : List (String × String)) (s : Settings) : Except Error Unit :=
  if (environment.find? (·.1 = "RUST_LOG")).any (LogFilter.isValid ·.2) ∨ LogFilter.isValid s.telemetry.logLevel
  then .ok ()
  else .error (.config "the log level is no filter" "telemetry.log_level")

variable {m : Type → Type} [Monad m]

/-- The file of settings. Its extension may be left out. -/
def findSettings (fs : FileAccess m) (path : String) : m File := do
  let candidates ← ["json", "yaml", "yml"].mapM fun e => fs.open (path ++ "." ++ e)
  let given ← fs.open path
  return ((given :: candidates).find? (·.text.isSome)).getD given

def isPolicyFile (name : String) : Bool :=
  (Path.extension? name).any fun e => e.toLower ∈ ["yaml", "yml", "json"]

/-- Loads the policy files of a directory in the order of their names. Those that cannot be loaded are
passed over. -/
def loadDirectory (fs : FileAccess m) (e : Engine) (directory : String) : ExceptT Error m Engine := do
  match ← fs.names directory with
  | none => throw (.io "the directory cannot be read")
  | some names =>
    let names := (names.filter isPolicyFile).mergeSort fun a b => decide (a ≤ b)
    let files ← names.mapM fun n => fs.open (directory ++ "/" ++ n)
    return files.foldl (fun e f => (e.loadFile f).2) e

def loadRequest (fs : FileAccess m) (path : String) : ExceptT Error m Request := do
  match ← fs.open path with
  | ⟨_, none⟩ => throw (.io "the file cannot be read")
  | ⟨"json", some text⟩ => liftExcept (Request.ofJsonText text)
  | ⟨_, some text⟩ => liftExcept (Request.ofYamlText text)

/-- Builds the decision point and reads the request. -/
def prepare (fs : FileAccess m) (environment : List (String × String)) (a : Arguments) (request : String) :
    ExceptT Error m (Engine × Request) := do
  let file ← (a.config.mapM (findSettings fs) : m (Option File))
  let settings := override a (← liftExcept (Settings.load file environment))
  liftExcept (checkLogging environment settings)
  let files ← (a.policyFiles.mapM fs.open : m (List File))
  let e ← liftExcept (Engine.build { settings, files })
  let e ← match a.policyDirectory with
    | none => pure e
    | some d => loadDirectory fs e d
  return (e, ← loadRequest fs request)

/-- Carries out a command line; `evaluate` answers the request. -/
def run (fs : FileAccess m) (evaluate : Engine → Request → m Response) (environment : List (String × String))
    (arguments : List String) : m Outcome := do
  match Arguments.parse environment arguments with
  | .error h => return .halted h
  | .ok a =>
    match a.request with
    | none => return .halted .misuse
    | some path =>
      match ← prepare fs environment a path with
      | .error e => return .failed e
      | .ok (e, r) => return .answered (← evaluate e r)

/-- What is printed of a response. -/
def printed (r : Response) : String := r.toJson.pretty ""

end Arbiter.CommandLine
