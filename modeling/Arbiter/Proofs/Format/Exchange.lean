import Arbiter.Format.Request
import Arbiter.Format.Response
import Arbiter.Proofs.Format.Policy

namespace Arbiter

open Json (Conforms FieldConforms)

namespace Attribute

theorem conforms (a : Attribute) : Conforms (.record .requestAttribute) a.toJson :=
  Json.conforms_record <|
    .cons (.there (.word _ _)) <| .cons (.there (.text _)) <| .cons (.there (.text _)) <|
    .cons (.map fun _ _ => .text _) <| .cons (.there (.list fun _ _ => .value _)) .nil

theorem ofJson?_toJson (a : Attribute) (h : ∀ v ∈ a.values, v.free = v) : ofJson? a.toJson = some a := by
  have hvalues : Json.array? (fun v => some v.free) (.array a.values) = some a.values := by
    have hread : (a.values.map id).mapM (fun v => some v.free) = some a.values :=
      mapM_map fun v hv => congrArg some (h v hv)
    rwa [List.map_id] at hread
  simp [ofJson?, toJson, Json.string?, Json.word?, Json.readUnlessNull_string, hvalues]

end Attribute

namespace Request

/-- Whether the values of its attributes are in their stored form. -/
def Expressible (r : Request) : Prop := ∀ a ∈ r.attributes, ∀ v ∈ a.values, v.free = v

theorem conforms (r : Request) : Conforms (.record .request) r.toJson :=
  Json.conforms_record <|
    .cons (.there (.text _)) <| .cons (.there (.list (List.forall_mem_map.2 fun a _ => a.conforms))) .nil

theorem ofJson?_toJson (r : Request) (h : r.Expressible) : ofJson? r.toJson = some r := by
  have hattributes :
      Json.array? Attribute.ofJson? (.array (r.attributes.map (·.toJson))) = some r.attributes :=
    mapM_map fun a ha => a.ofJson?_toJson (h a ha)
  simp [ofJson?, toJson, Json.string?, hattributes]

end Request

namespace MissingAttribute

theorem conforms (m : MissingAttribute) : Conforms (.record .missingAttribute) m.toJson :=
  Json.conforms_record <|
    .cons (.there (.word _ _)) <| .cons (.there (.text _)) <| .cons (.there (.text _)) <|
    .cons (.map fun _ _ => .text _) .nil

theorem ofJson?_toJson (m : MissingAttribute) : ofJson? m.toJson = some m := by
  simp [ofJson?, toJson, Json.string?, Json.word?, Json.readUnlessNull_string]

end MissingAttribute

namespace Response

def Expressible (r : Response) : Prop := ∀ o ∈ r.obligations, o.Expressible

theorem conforms (r : Response) : Conforms (.record .response) r.toJson := by
  have hcached : FieldConforms ("cached", if r.cached then some (.bool true) else none) ("cached", .value) :=
    ⟨rfl, fun _ _ => .value _⟩
  exact Json.conforms_record <|
    .cons (.there (.text _)) <| .cons (.there (.word _ _)) <| .cons (.there (.word _ _)) <|
    .cons (.unlessEmpty fun _ _ => .word _ _) <| .cons (.unlessEmpty fun m _ => m.conforms) <|
    .cons (.unlessEmpty fun o _ => o.conforms) <| .cons (.there (.value _)) <| .cons hcached .nil

theorem ofJson?_toJson (r : Response) (h : r.Expressible) : ofJson? r.toJson = some r := by
  have hcodes : ((Json.unlessEmpty (fun c => .string c.urn) r.statusCodes).map
      (Json.array? (Json.word? StatusCode.ofUrn?))).getD (some []) = some r.statusCodes :=
    Json.withDefault_unlessEmpty fun c _ => by simp [Json.word?, Json.string?]
  have hmissing : ((Json.unlessEmpty (·.toJson) r.missing).map
      (Json.array? MissingAttribute.ofJson?)).getD (some []) = some r.missing :=
    Json.withDefault_unlessEmpty fun m _ => m.ofJson?_toJson
  have hobligations := Obligation.withDefault_unlessEmpty h
  obtain ⟨id, decision, code, codes, missing, obligations, time, cached⟩ := r
  cases cached <;>
    simp [ofJson?, toJson, Json.string?, Json.word?, Json.bool?, Json.toDouble?, hcodes, hmissing,
      hobligations]

end Response

end Arbiter
