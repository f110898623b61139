import Arbiter.Document
import Arbiter.Format.Condition

namespace Arbiter

namespace Assignment

def toJson (a : Assignment) : Json :=
  .record [("attributeId", some (.string a.attributeId)), ("value", some a.value)]

def ofJson? (j : Json) : Option Assignment := do
  let ms ← j.members?
  return {
    attributeId := ← Json.required "attributeId" Json.string? ms
    value := ← Json.required "value" (fun v => some v.free) ms }

end Assignment

namespace Obligation

def toJson (o : Obligation) : Json :=
  .record [
    ("id", some (.string o.id)),
    ("fulfillOn", some (.string o.fulfillOn.name)),
    ("assignments", Json.unlessEmpty (·.toJson) o.assignments)]

def ofJson? (j : Json) : Option Obligation := do
  let ms ← j.members?
  return {
    id := ← Json.required "id" Json.string? ms
    fulfillOn := ← Json.required "fulfillOn" (Json.word? Effect.ofName?) ms
    assignments := ← Json.withDefault "assignments" [] (Json.array? Assignment.ofJson?) ms }

end Obligation

namespace Rule

def toJson (r : Rule) : Json :=
  .record [
    ("id", some (.string r.id)),
    ("description", r.description.map .string),
    ("effect", some (.string r.effect.name)),
    ("target", r.target.map (·.toJson)),
    ("condition", r.condition.map (·.toJson)),
    ("obligations", Json.unlessEmpty (·.toJson) r.obligations)]

def ofJson? (j : Json) : Option Rule := do
  let ms ← j.members?
  return {
    id := ← Json.required "id" Json.string? ms
    description := ← Json.optional "description" Json.string? ms
    effect := ← Json.required "effect" (Json.word? Effect.ofName?) ms
    target := ← Json.optional "target" Condition.ofJson? ms
    condition := ← Json.optional "condition" Condition.ofJson? ms
    obligations := ← Json.withDefault "obligations" [] (Json.array? Obligation.ofJson?) ms }

/-- A rule, or null for an empty slot. -/
def slotOfJson? : Json → Option (Option Rule)
  | .null => some none
  | j => (ofJson? j).map some

/-- A list of slots, or null. -/
def slotsOfJson? : Json → Option (Option (List (Option Rule)))
  | .null => some none
  | j => (Json.array? slotOfJson? j).map some

end Rule

namespace Policy

def toFields (p : Policy) : List (String × Option Json) := [
  ("id", some (.string p.id)),
  ("description", p.description.map .string),
  ("version", some (.string p.version)),
  ("target", p.target.map (·.toJson)),
  ("combiningAlgorithm", some (Json.orNull (fun a => .string a.urn) p.algorithm)),
  ("rules", some (Json.orNull (fun slots => .array (slots.map (Json.orNull (·.toJson)))) p.rules)),
  ("obligations", Json.unlessEmpty (·.toJson) p.obligations),
  ("enabled", some (.bool p.enabled)),
  ("priority", some (.integer p.priority.toInt))]

def ofMembers? (ms : List (String × Json)) : Option Policy := do
  return {
    id := ← Json.required "id" Json.string? ms
    description := ← Json.optional "description" Json.string? ms
    version := ← Json.withDefault "version" "1.0" Json.string? ms
    target := ← Json.optional "target" Condition.ofJson? ms
    algorithm := ← Json.optional "combiningAlgorithm" (Json.word? RuleAlgorithm.ofUrn?) ms
    rules := ← Json.optional "rules" (Json.array? Rule.slotOfJson?) ms
    obligations := ← Json.withDefault "obligations" [] (Json.array? Obligation.ofJson?) ms
    enabled := ← Json.withDefault "enabled" true Json.bool? ms
    priority := ← Json.withDefault "priority" 0 Json.int32? ms }

end Policy

namespace PolicySetHeader

def toFields (h : PolicySetHeader) (children : Json) : List (String × Option Json) := [
  ("id", some (.string h.id)),
  ("description", h.description.map .string),
  ("target", h.target.map (·.toJson)),
  ("combiningAlgorithm", some (Json.orNull (fun a => .string a.urn) h.algorithm)),
  ("children", some children),
  ("obligations", Json.unlessEmpty (·.toJson) h.obligations),
  ("enabled", some (.bool h.enabled)),
  ("priority", some (.integer h.priority.toInt))]

def ofMembers? (ms : List (String × Json)) : Option PolicySetHeader := do
  return {
    id := ← Json.required "id" Json.string? ms
    description := ← Json.optional "description" Json.string? ms
    target := ← Json.optional "target" Condition.ofJson? ms
    algorithm := ← Json.optional "combiningAlgorithm" (Json.word? PolicyAlgorithm.ofUrn?) ms
    obligations := ← Json.withDefault "obligations" [] (Json.array? Obligation.ofJson?) ms
    enabled := ← Json.withDefault "enabled" true Json.bool? ms
    priority := ← Json.withDefault "priority" 0 Json.int32? ms }

end PolicySetHeader

namespace Node

/-- A node tells its kind in its first field. -/
def ofKind (kind : String) (fields : List (String × Option Json)) : Json :=
  .record (("kind", some (.string kind)) :: fields)

mutual

def toJson : Node → Json
  | policy p => ofKind "policy" p.toFields
  | policySet h children => ofKind "policySet" (h.toFields (childrenToJson children))
  | reference id => ofKind "reference" [("id", some (.string id))]

def childrenToJson : Option (List (Option Node)) → Json
  | none => .null
  | some slots => .array (slotsToJson slots)

def slotsToJson : List (Option Node) → List Json
  | [] => []
  | s :: slots => slotToJson s :: slotsToJson slots

def slotToJson : Option Node → Json
  | none => .null
  | some n => n.toJson

end

mutual

def ofJson? : Json → Option Node
  | .object ms => do
    match ← Json.required "kind" Json.string? ms with
    | "policy" => return policy (← Policy.ofMembers? ms)
    | "policySet" =>
      let _ ← Json.field? "children" ms
      return policySet (← PolicySetHeader.ofMembers? ms) (← childrenOfMembers? ms)
    | "reference" => return reference (← Json.required "id" Json.string? ms)
    | _ => none
  | _ => none

/-- The children in the field of that name. -/
def childrenOfMembers? : List (String × Json) → Option (Option (List (Option Node)))
  | [] => some none
  | (name, v) :: ms => if name = "children" then childrenOfJson? v else childrenOfMembers? ms

def childrenOfJson? : Json → Option (Option (List (Option Node)))
  | .null => some none
  | .array items => (slotsOfJson? items).map some
  | _ => none

def slotsOfJson? : List Json → Option (List (Option Node))
  | [] => some []
  | .null :: js => (slotsOfJson? js).map (none :: ·)
  | j :: js =>
    match ofJson? j, slotsOfJson? js with
    | some n, some slots => some (some n :: slots)
    | _, _ => none

end

end Node

namespace Document

def toJson (d : Document) : Json :=
  .record [
    ("apiVersion", some (.string d.apiVersion)),
    ("kind", some (.string d.kind)),
    ("policies", some (.array (d.policies.map (·.toJson))))]

def ofJson? (j : Json) : Option Document := do
  let ms ← j.members?
  return {
    apiVersion := ← Json.withDefault "apiVersion" "pdp.xacml.io/v1" Json.string? ms
    kind := ← Json.withDefault "kind" "PolicyDocument" Json.string? ms
    policies := ← Json.withDefault "policies" [] (Json.array? Node.ofJson?) ms }

end Document

end Arbiter
