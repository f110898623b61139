namespace Arbiter

inductive StatusCode where
  | ok
  | missingAttribute
  | syntaxError
  | processingError
  deriving DecidableEq, Repr, Inhabited

namespace StatusCode

def all : List StatusCode := [ok, missingAttribute, syntaxError, processingError]

def urn : StatusCode → String
  | ok => "urn:oasis:names:tc:xacml:1.0:status:ok"
  | missingAttribute => "urn:oasis:names:tc:xacml:1.0:status:missing-attribute"
  | syntaxError => "urn:oasis:names:tc:xacml:1.0:status:syntax-error"
  | processingError => "urn:oasis:names:tc:xacml:1.0:status:processing-error"

def ofUrn? (s : String) : Option StatusCode :=
  all.find? (·.urn = s)

def isOk : StatusCode → Bool
  | ok => true
  | _ => false

@[simp] theorem ofUrn?_urn (c : StatusCode) : ofUrn? c.urn = some c := by
  cases c <;> rfl

end StatusCode

end Arbiter
