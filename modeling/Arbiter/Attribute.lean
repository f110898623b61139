namespace Arbiter

inductive Category where
  | subject
  | resource
  | action
  | environment
  deriving DecidableEq, Repr, Inhabited

namespace Category

def all : List Category := [subject, resource, action, environment]

def name : Category → String
  | subject => "subject"
  | resource => "resource"
  | action => "action"
  | environment => "environment"

def ofName? (s : String) : Option Category :=
  all.find? (·.name = s)

def urn : Category → String
  | subject => "urn:oasis:names:tc:xacml:1.0:subject-category:access-subject"
  | resource => "urn:oasis:names:tc:xacml:3.0:attribute-category:resource"
  | action => "urn:oasis:names:tc:xacml:3.0:attribute-category:action"
  | environment => "urn:oasis:names:tc:xacml:3.0:attribute-category:environment"

@[simp] theorem ofName?_name (c : Category) : ofName? c.name = some c := by
  cases c <;> rfl

end Category

namespace DataType

def string : String := "http://www.w3.org/2001/XMLSchema#string"

def integer : String := "http://www.w3.org/2001/XMLSchema#integer"

def double : String := "http://www.w3.org/2001/XMLSchema#double"

def boolean : String := "http://www.w3.org/2001/XMLSchema#boolean"

def dateTime : String := "http://www.w3.org/2001/XMLSchema#dateTime"

end DataType

/-- Names a bag of values: all that the attributes of one category, id and data type hold, and of one
issuer if it names one. -/
structure Designator where
  category : Category
  attributeId : String
  dataType : String := DataType.string
  issuer : Option String := none
  mustBePresent : Bool := false
  deriving DecidableEq, Repr, Inhabited

/-- Tells which attribute was asked for and not found. -/
structure MissingAttribute where
  category : Category
  attributeId : String
  dataType : String
  issuer : Option String := none
  deriving DecidableEq, Repr, Inhabited

namespace Designator

def missing (d : Designator) : MissingAttribute :=
  ⟨d.category, d.attributeId, d.dataType, d.issuer⟩

end Designator

namespace MissingAttribute

def text (m : MissingAttribute) : String :=
  m.category.urn ++ " " ++ m.attributeId ++ " (" ++ m.dataType ++ ")" ++
    match m.issuer with
    | none => ""
    | some issuer => " issued by " ++ issuer

end MissingAttribute

end Arbiter
