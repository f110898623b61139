import Arbiter.Format.Record
import Arbiter.Request

namespace Arbiter

namespace Attribute

def toJson (a : Attribute) : Json :=
  .record [
    ("category", some (.string a.category.name)),
    ("attributeId", some (.string a.attributeId)),
    ("dataType", some (.string a.dataType)),
    ("issuer", a.issuer.map .string),
    ("values", some (.array a.values))]

def ofJson? (j : Json) : Option Attribute := do
  let ms ← j.members?
  return {
    category := ← Json.required "category" (Json.word? Category.ofName?) ms
    attributeId := ← Json.required "attributeId" Json.string? ms
    dataType := ← Json.withDefault "dataType" DataType.string Json.string? ms
    issuer := ← Json.optional "issuer" Json.string? ms
    values := ← Json.withDefault "values" [] (Json.array? fun v => some v.free) ms }

end Attribute

namespace Request

def toJson (r : Request) : Json :=
  .record [("id", some (.string r.id)), ("attributes", some (.array (r.attributes.map (·.toJson))))]

def ofJson? (j : Json) : Option Request := do
  let ms ← j.members?
  return {
    id := ← Json.withDefault "id" "" Json.string? ms
    attributes := ← Json.withDefault "attributes" [] (Json.array? Attribute.ofJson?) ms }

end Request

end Arbiter
