import Arbiter.Attribute
import Arbiter.Json.Basic

namespace Arbiter

structure Attribute where
  category : Category
  attributeId : String
  dataType : String := DataType.string
  issuer : Option String := none
  values : List Json := []
  deriving DecidableEq

structure Request where
  id : String := ""
  attributes : List Attribute := []
  deriving DecidableEq

namespace Attribute

/-- A designator that names no issuer takes any. -/
def matchesIssuer (a : Attribute) : Option String → Bool
  | none => true
  | some issuer => a.issuer = some issuer

def isSelectedBy (a : Attribute) (d : Designator) : Bool :=
  a.category = d.category && a.attributeId = d.attributeId && a.dataType = d.dataType &&
    a.matchesIssuer d.issuer

end Attribute

/-- The values a designator selects from a list of attributes, in their order. -/
def bagOf (d : Designator) (as : List Attribute) : List Json :=
  (as.filter (·.isSelectedBy d)).flatMap (·.values)

namespace Request

def bag (r : Request) (d : Designator) : List Json := bagOf d r.attributes

/-- Whether an attribute is of this category, id and data type and has no issuer. -/
def takesUnissued (c : Category) (id dataType : String) (a : Attribute) : Bool :=
  a.category = c && a.attributeId = id && a.dataType = dataType && a.issuer.isNone

/-- Adds a value to the first attribute that takes it, or else as an attribute of its own. -/
def addToAttributes (c : Category) (id dataType : String) (v : Json) : List Attribute → List Attribute
  | [] => [⟨c, id, dataType, none, [v]⟩]
  | a :: as =>
    if takesUnissued c id dataType a then { a with values := a.values ++ [v] } :: as
    else a :: addToAttributes c id dataType v as

def withId (r : Request) (id : String) : Request := { r with id }

def withValue (r : Request) (c : Category) (id dataType : String) (v : Json) : Request :=
  { r with attributes := addToAttributes c id dataType v r.attributes }

def withString (r : Request) (c : Category) (id s : String) : Request :=
  r.withValue c id DataType.string (.string s)

def withSubjectId (r : Request) (s : String) : Request :=
  r.withString .subject "urn:oasis:names:tc:xacml:1.0:subject:subject-id" s

def withResourceId (r : Request) (s : String) : Request :=
  r.withString .resource "urn:oasis:names:tc:xacml:1.0:resource:resource-id" s

def withActionId (r : Request) (s : String) : Request :=
  r.withString .action "urn:oasis:names:tc:xacml:1.0:action:action-id" s

def withAttribute (r : Request) (a : Attribute) : Request :=
  { r with attributes := r.attributes ++ [a] }

end Request

end Arbiter
