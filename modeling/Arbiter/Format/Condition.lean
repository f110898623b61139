import Arbiter.Condition.Basic
import Arbiter.Format.Record

namespace Arbiter

namespace Designator

def toJson (d : Designator) : Json :=
  .record [
    ("category", some (.string d.category.name)),
    ("attributeId", some (.string d.attributeId)),
    ("dataType", some (.string d.dataType)),
    ("issuer", d.issuer.map .string),
    ("mustBePresent", some (.bool d.mustBePresent))]

def ofJson? (j : Json) : Option Designator := do
  let ms ← j.members?
  return {
    category := ← Json.required "category" (Json.word? Category.ofName?) ms
    attributeId := ← Json.required "attributeId" Json.string? ms
    dataType := ← Json.withDefault "dataType" DataType.string Json.string? ms
    issuer := ← Json.optional "issuer" Json.string? ms
    mustBePresent := ← Json.withDefault "mustBePresent" false Json.bool? ms }

end Designator

namespace Operand

mutual

def toJson : Operand → Json
  | string s => .string s
  | integer n => .integer n.toInt
  | double x => .double x
  | boolean b => .bool b
  | array items => .array (itemsToJson items)
  | null => .null

def itemsToJson : List Operand → List Json
  | [] => []
  | x :: xs => toJson x :: itemsToJson xs

end

/-- A whole number beyond 64 signed bits is read as a double. -/
def ofInt (n : Int) : Operand :=
  if fitsSigned 64 n then integer (.ofInt n) else double (.ofInt n)

mutual

/-- Any value but an object, or a list that holds one. -/
def ofJson? : Json → Option Operand
  | .string s => some (string s)
  | .integer n => some (ofInt n)
  | .double x => some (double x)
  | .bool b => some (boolean b)
  | .array items => (itemsOfJson? items).map array
  | .null => some null
  | .object _ => none

def itemsOfJson? : List Json → Option (List Operand)
  | [] => some []
  | x :: xs =>
    match ofJson? x, itemsOfJson? xs with
    | some y, some ys => some (y :: ys)
    | _, _ => none

end

end Operand

namespace Condition

mutual

def toJson : Condition → Json
  | ⟨operator, designator, operand, nested⟩ =>
    .record [
      ("operator", some (.string operator.word)),
      ("attribute", designator.map (·.toJson)),
      ("value", operand.map (·.toJson)),
      ("conditions", if nested.isEmpty then none else some (.array (allToJson nested)))]

def allToJson : List Condition → List Json
  | [] => []
  | c :: cs => toJson c :: allToJson cs

end

mutual

def ofJson? : Json → Option Condition
  | .object ms => do
    let _ ← Json.field? "conditions" ms
    return {
      operator := ← Json.required "operator" (Json.word? Operator.ofWord?) ms
      designator := ← Json.optional "attribute" Designator.ofJson? ms
      operand := ← Json.optional "value" Operand.ofJson? ms
      nested := ← nestedOfMembers? ms }
  | _ => none

/-- The conditions in the field of that name. -/
def nestedOfMembers? : List (String × Json) → Option (List Condition)
  | [] => some []
  | (name, v) :: ms => if name = "conditions" then nestedOfJson? v else nestedOfMembers? ms

def nestedOfJson? : Json → Option (List Condition)
  | .array items => allOfJson? items
  | _ => none

def allOfJson? : List Json → Option (List Condition)
  | [] => some []
  | j :: js =>
    match ofJson? j, allOfJson? js with
    | some c, some cs => some (c :: cs)
    | _, _ => none

end

end Condition

end Arbiter
