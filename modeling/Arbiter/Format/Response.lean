import Arbiter.Format.Policy
import Arbiter.Response

namespace Arbiter

namespace MissingAttribute

def toJson (m : MissingAttribute) : Json :=
  .record [
    ("category", some (.string m.category.name)),
    ("attributeId", some (.string m.attributeId)),
    ("dataType", some (.string m.dataType)),
    ("issuer", m.issuer.map .string)]

def ofJson? (j : Json) : Option MissingAttribute := do
  let ms ← j.members?
  return {
    category := ← Json.required "category" (Json.word? Category.ofName?) ms
    attributeId := ← Json.required "attributeId" Json.string? ms
    dataType := ← Json.required "dataType" Json.string? ms
    issuer := ← Json.optional "issuer" Json.string? ms }

end MissingAttribute

namespace Response

def toJson (r : Response) : Json :=
  .record [
    ("requestId", some (.string r.requestId)),
    ("decision", some (.string r.decision.name)),
    ("statusCode", some (.string r.statusCode.urn)),
    ("statusCodes", Json.unlessEmpty (fun c => .string c.urn) r.statusCodes),
    ("missingAttributes", Json.unlessEmpty (·.toJson) r.missing),
    ("obligations", Json.unlessEmpty (·.toJson) r.obligations),
    ("evaluationTimeMs", some (.double r.evaluationTimeMs)),
    ("cached", if r.cached then some (.bool true) else none)]

def ofJson? (j : Json) : Option Response := do
  let ms ← j.members?
  return {
    requestId := ← Json.withDefault "requestId" "" Json.string? ms
    decision := ← Json.required "decision" (Json.word? Decision.ofName?) ms
    statusCode := ← Json.required "statusCode" (Json.word? StatusCode.ofUrn?) ms
    statusCodes := ← Json.withDefault "statusCodes" [] (Json.array? (Json.word? StatusCode.ofUrn?)) ms
    missing :=
      ← Json.withDefault "missingAttributes" [] (Json.array? MissingAttribute.ofJson?) ms
    obligations := ← Json.withDefault "obligations" [] (Json.array? Obligation.ofJson?) ms
    evaluationTimeMs := ← Json.withDefault "evaluationTimeMs" .zero Json.toDouble? ms
    cached := ← Json.withDefault "cached" false Json.bool? ms }

end Response

end Arbiter
