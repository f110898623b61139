import Arbiter.Format.Condition
import Arbiter.Proofs.Json.Record

namespace Arbiter

open Json (Conforms FieldConforms)

namespace Designator

theorem conforms (d : Designator) : Conforms (.record .designator) d.toJson :=
  Json.conforms_record <|
    .cons (.there (.word _ _)) <| .cons (.there (.text _)) <| .cons (.there (.text _)) <|
    .cons (.map fun _ _ => .text _) <| .cons (.there (.value _)) .nil

@[simp] theorem ofJson?_toJson (d : Designator) : ofJson? d.toJson = some d := by
  obtain ⟨category, id, type, issuer, must⟩ := d
  simp [ofJson?, toJson, Json.word?, Json.string?, Json.bool?]
  cases issuer <;> rfl

end Designator

namespace Operand

theorem ofInt_toInt (n : Int64) : ofInt n.toInt = integer n := by
  have hfits : fitsSigned 64 n.toInt := decide_eq_true ⟨n.le_toInt, n.toInt_lt⟩
  rw [ofInt, if_pos hfits, Int64.ofInt_toInt]

mutual

/-- An operand is read as the kind that was written. -/
theorem ofJson?_toJson : (o : Operand) → ofJson? o.toJson = some o
  | string _ | double _ | boolean _ | null => rfl
  | integer n => by rw [toJson, ofJson?, ofInt_toInt]
  | array items => by rw [toJson, ofJson?, itemsOfJson?_itemsToJson items]; rfl

theorem itemsOfJson?_itemsToJson : (items : List Operand) → itemsOfJson? (itemsToJson items) = some items
  | [] => rfl
  | x :: xs => by simp [itemsToJson, itemsOfJson?, ofJson?_toJson x, itemsOfJson?_itemsToJson xs]

end

theorem toJson_eq_null {o : Operand} : o.toJson = .null ↔ o = null := by
  cases o <;> simp [toJson]

end Operand

namespace Condition

mutual

/-- Whether no operand is null, neither here nor in a nested condition. -/
def Expressible : Condition → Prop
  | ⟨_, _, operand, nested⟩ => operand ≠ some .null ∧ AllExpressible nested

def AllExpressible : List Condition → Prop
  | [] => True
  | c :: cs => Expressible c ∧ AllExpressible cs

end

mutual

theorem conforms : (c : Condition) → Conforms (.record .condition) c.toJson
  | ⟨operator, designator, operand, nested⟩ => by
    have hnested : FieldConforms
        ("conditions", if nested.isEmpty then none else some (.array (allToJson nested)))
        ("conditions", .list (.record .condition)) := by
      refine ⟨rfl, fun j hj => ?_⟩
      split at hj
      · cases hj
      · cases hj
        exact .list (all_conform nested)
    exact Json.conforms_record <|
      .cons (.there (.word _ _)) <| .cons (.map fun d _ => d.conforms) <|
      .cons (.map fun _ _ => .value _) <| .cons hnested .nil

theorem all_conform : (cs : List Condition) → ∀ j ∈ allToJson cs, Conforms (.record .condition) j
  | [] => by simp [allToJson]
  | c :: cs => by
    rw [allToJson, List.forall_mem_cons]
    exact ⟨conforms c, all_conform cs⟩

end

theorem nestedOfMembers?_eq (ms : List (String × Json)) :
    nestedOfMembers? ms =
      match ms.find? (·.1 = "conditions") with
      | none => some []
      | some m => nestedOfJson? m.2 := by
  induction ms with
  | nil => rfl
  | cons m ms ih => by_cases h : m.1 = "conditions" <;> simp [nestedOfMembers?, h, ih]

mutual

theorem ofJson?_toJson : (c : Condition) → c.Expressible → ofJson? c.toJson = some c
  | ⟨operator, designator, operand, nested⟩, h => by
    obtain ⟨hoperand, hnested⟩ := h
    have hall := allOfJson?_allToJson nested hnested
    have hdesignator : Json.readUnlessNull Designator.ofJson? (designator.map (·.toJson)) = some designator :=
      Json.readUnlessNull_map (fun _ _ => nofun) fun d _ => d.ofJson?_toJson
    have hoperand : Json.readUnlessNull Operand.ofJson? (operand.map (·.toJson)) = some operand := by
      refine Json.readUnlessNull_map (fun o ho hnull => ?_) fun o _ => o.ofJson?_toJson
      exact hoperand (by rw [ho, Operand.toJson_eq_null.1 hnull])
    rw [toJson, Json.record_eq, ofJson?, nestedOfMembers?_eq]
    cases nested with
    | nil => simp [Json.field?_present, Json.find?_present, Json.word?, Json.string?, hdesignator, hoperand]
    | cons c cs =>
      simp [Json.field?_present, Json.find?_present, Json.word?, Json.string?, hdesignator, hoperand,
        nestedOfJson?, hall]

theorem allOfJson?_allToJson : (cs : List Condition) → AllExpressible cs → allOfJson? (allToJson cs) = some cs
  | [], _ => rfl
  | c :: cs, h => by
    simp [allToJson, allOfJson?, ofJson?_toJson c h.1, allOfJson?_allToJson cs h.2]

end

end Condition

end Arbiter
