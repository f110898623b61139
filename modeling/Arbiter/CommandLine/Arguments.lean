import Arbiter.Combining.Algorithm

namespace Arbiter

/-- What a command line asks for. -/
structure Arguments where
  config : Option String := none
  policyFiles : List String := []
  policyDirectory : Option String := none
  request : Option String := none
  rootAlgorithm : Option PolicyAlgorithm := none
  respectAbandoned : Bool := false
  logLevel : Option String := none
  jsonLogs : Bool := false

namespace Arguments

/-- Why a command line is not carried out. -/
inductive Halt where
  | misuse
  | help
  | version
  deriving DecidableEq, Repr

/-- What is followed by a value. -/
inductive Setting where
  | config
  | policyFile
  | policyDirectory
  | request
  | rootAlgorithm
  | logLevel

inductive Switch where
  | respectAbandoned
  | jsonLogs
  | help
  | version

/-- A name on the command line. -/
inductive Name where
  | setting (s : Setting)
  | switch (s : Switch)

def Name.ofLong? (name : String) : Option Name :=
  match name with
  | "config" => some (.setting .config)
  | "policy-file" => some (.setting .policyFile)
  | "policy-dir" => some (.setting .policyDirectory)
  | "request" => some (.setting .request)
  | "root-algorithm" => some (.setting .rootAlgorithm)
  | "log-level" => some (.setting .logLevel)
  | "respect-abandoned" => some (.switch .respectAbandoned)
  | "json-logs" => some (.switch .jsonLogs)
  | "help" => some (.switch .help)
  | "version" => some (.switch .version)
  | _ => none

def Name.ofShort? (c : Char) : Option Name :=
  match c with
  | 'c' => some (.setting .config)
  | 'f' => some (.setting .policyFile)
  | 'd' => some (.setting .policyDirectory)
  | 'r' => some (.setting .request)
  | 'h' => some (.switch .help)
  | 'V' => some (.switch .version)
  | _ => none

/-- Gives a value that may be given once. -/
def once (before : Option α) (value : Option α) : Except Halt (Option α) :=
  match before, value with
  | none, some v => .ok (some v)
  | _, _ => .error .misuse

/-- No path is empty. -/
def path? (s : String) : Option String := if s.isEmpty then none else some s

def set (a : Arguments) (s : Setting) (value : String) : Except Halt Arguments := do
  match s with
  | .config => return { a with config := ← once a.config (path? value) }
  | .policyFile =>
    match path? value with
    | none => .error .misuse
    | some p => return { a with policyFiles := a.policyFiles ++ [p] }
  | .policyDirectory => return { a with policyDirectory := ← once a.policyDirectory (path? value) }
  | .request => return { a with request := ← once a.request (path? value) }
  | .rootAlgorithm =>
    return { a with rootAlgorithm := ← once a.rootAlgorithm (PolicyAlgorithm.ofUrn? value) }
  | .logLevel => return { a with logLevel := ← once a.logLevel (some value) }

def turnOn (a : Arguments) : Switch → Except Halt Arguments
  | .respectAbandoned => if a.respectAbandoned then .error .misuse else .ok { a with respectAbandoned := true }
  | .jsonLogs => if a.jsonLogs then .error .misuse else .ok { a with jsonLogs := true }
  | .help => .error .help
  | .version => .error .version

/-- Reads letters behind one dash. A letter that takes a value takes the rest, and if there is none, the
argument after. -/
def readLetters (a : Arguments) : List Char → Except Halt (Arguments × Option Setting)
  | [] => .ok (a, none)
  | c :: cs => do
    match Name.ofShort? c, cs with
    | none, _ => .error .misuse
    | some (.switch s), _ => readLetters (← a.turnOn s) cs
    | some (.setting s), [] => return (a, some s)
    | some (.setting s), '=' :: cs => return (← a.set s (String.ofList cs), none)
    | some (.setting s), cs => return (← a.set s (String.ofList cs), none)

/-- Reads a name behind two dashes, which may hold its value after an equals sign. -/
def readLong (a : Arguments) (cs : List Char) : Except Halt (Arguments × Option Setting) := do
  let name := String.ofList (cs.takeWhile (· ≠ '='))
  match Name.ofLong? name, cs.dropWhile (· ≠ '=') with
  | none, _ => .error .misuse
  | some (.switch s), [] => return (← a.turnOn s, none)
  | some (.switch _), _ => .error .misuse
  | some (.setting s), [] => return (a, some s)
  | some (.setting s), _ :: value => return (← a.set s (String.ofList value), none)

/-- Whether an argument can only be a name. -/
def isName (s : String) : Bool := s.startsWith "-" && s ≠ "-"

def readAll (a : Arguments) : List String → Except Halt Arguments
  | [] => .ok a
  | s :: rest => do
    let (a, awaiting) ← match s.toList with
      | ['-', '-'] => if rest.isEmpty then pure (a, none) else .error .misuse
      | '-' :: '-' :: cs => a.readLong cs
      | '-' :: c :: cs => a.readLetters (c :: cs)
      | _ => .error .misuse
    match awaiting, rest with
    | none, rest => readAll a rest
    | some _, [] => .error .misuse
    | some s, value :: rest => if isName value then .error .misuse else readAll (← a.set s value) rest

/-- What the environment gives where the arguments do not. -/
def addEnvironment (a : Arguments) (environment : List (String × String)) : Except Halt Arguments := do
  let fill (present : Bool) (name : String) (s : Setting) (a : Arguments) : Except Halt Arguments :=
    match present, environment.find? (·.1 = name) with
    | false, some (_, value) => a.set s value
    | _, _ => .ok a
  let a ← fill a.config.isSome "PDP_CONFIG_FILE" .config a
  let a ← fill a.policyDirectory.isSome "PDP_POLICY_DIR" .policyDirectory a
  fill a.logLevel.isSome "PDP_LOG_LEVEL" .logLevel a

def parse (environment : List (String × String)) (arguments : List String) : Except Halt Arguments := do
  addEnvironment (← readAll {} arguments) environment

end Arguments

end Arbiter
