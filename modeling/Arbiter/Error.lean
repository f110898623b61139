import Arbiter.Attribute
import Arbiter.Status

namespace Arbiter

inductive Error where
  | validation (message : String) (field : Option String := none)
  | parse (message : String)
  | evaluation (message : String)
  | expression (message : String) (expression : Option String := none)
  | missingAttribute (detail : MissingAttribute)
  | illegalState (message : String)
  | config (message : String) (key : Option String := none)
  | cache (message : String)
  | io (message : String)
  | serialization (message : String)
  | yaml (message : String)
  | internal (message : String)
  deriving DecidableEq, Repr, Inhabited

namespace Error

def category : Error → String
  | validation .. => "validation"
  | parse _ => "parse"
  | evaluation _ => "evaluation"
  | expression .. => "expression"
  | missingAttribute _ => "missing_attribute"
  | illegalState _ => "illegal_state"
  | config .. => "config"
  | cache _ => "cache"
  | io _ => "io"
  | serialization _ => "serialization"
  | yaml _ => "yaml"
  | internal _ => "internal"

def text : Error → String
  | validation m _ => "Policy validation error: " ++ m
  | parse m => "Policy parse error: " ++ m
  | evaluation m => "Evaluation error: " ++ m
  | expression m _ => "Expression error: " ++ m
  | missingAttribute d => "Missing attribute: " ++ d.text
  | illegalState m => "Illegal state: " ++ m
  | config m _ => "Configuration error: " ++ m
  | cache m => "Cache error: " ++ m
  | io m => "I/O error: " ++ m
  | serialization m => "Serialization error: " ++ m
  | yaml m => "YAML error: " ++ m
  | internal m => "Internal error: " ++ m

/-- The status code an error leaves on an evaluation it stops. -/
def status : Error → StatusCode
  | missingAttribute _ => .missingAttribute
  | validation .. | parse _ | expression .. | illegalState _ => .syntaxError
  | _ => .processingError

/-- Whether evaluation may go on without what failed. -/
def isRecoverable : Error → Bool
  | cache _ | missingAttribute _ => true
  | _ => false

theorem status_ne_ok (e : Error) : e.status ≠ .ok := by
  cases e <;> simp [status]

end Error

end Arbiter
