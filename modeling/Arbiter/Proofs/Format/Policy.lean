import Arbiter.Format.Policy
import Arbiter.Proofs.Format.Condition

namespace Arbiter

open Json (Conforms FieldConforms readUnlessNull)

theorem Condition.readUnlessNull_map {o : Option Condition} (h : ∀ c ∈ o, c.Expressible) :
    readUnlessNull ofJson? (o.map (·.toJson)) = some o :=
  Json.readUnlessNull_map (fun c _ => by cases c; simp [toJson, Json.record]) fun c hc =>
    c.ofJson?_toJson (h c hc)

theorem Json.readUnlessNull_string (o : Option String) : readUnlessNull string? (o.map .string) = some o :=
  readUnlessNull_map (fun _ _ => nofun) fun _ _ => rfl

namespace Assignment

theorem conforms (a : Assignment) : Conforms (.record .assignment) a.toJson :=
  Json.conforms_record <| .cons (.there (.text _)) <| .cons (.there (.value _)) .nil

theorem ofJson?_toJson (a : Assignment) (h : a.value.free = a.value) : ofJson? a.toJson = some a := by
  simp [ofJson?, toJson, Json.string?, h]

end Assignment

namespace Obligation

/-- Whether the values that it assigns are in their stored form. -/
def Expressible (o : Obligation) : Prop := ∀ a ∈ o.assignments, a.value.free = a.value

theorem conforms (o : Obligation) : Conforms (.record .obligation) o.toJson :=
  Json.conforms_record <|
    .cons (.there (.text _)) <| .cons (.there (.word _ _)) <| .cons (.unlessEmpty fun a _ => a.conforms) .nil

theorem ofJson?_toJson (o : Obligation) (h : o.Expressible) : ofJson? o.toJson = some o := by
  have hassignments := Json.withDefault_unlessEmpty fun a ha => Assignment.ofJson?_toJson a (h a ha)
  simp [ofJson?, toJson, Json.string?, Json.word?, hassignments]

theorem withDefault_unlessEmpty {os : List Obligation} (h : ∀ o ∈ os, o.Expressible) :
    ((Json.unlessEmpty (·.toJson) os).map (Json.array? ofJson?)).getD (some []) = some os :=
  Json.withDefault_unlessEmpty fun o ho => o.ofJson?_toJson (h o ho)

end Obligation

namespace Rule

structure Expressible (r : Rule) : Prop where
  target : ∀ c ∈ r.target, c.Expressible
  condition : ∀ c ∈ r.condition, c.Expressible
  obligations : ∀ o ∈ r.obligations, o.Expressible

theorem conforms (r : Rule) : Conforms (.record .rule) r.toJson :=
  Json.conforms_record <|
    .cons (.there (.text _)) <| .cons (.map fun _ _ => .text _) <| .cons (.there (.word _ _)) <|
    .cons (.map fun c _ => c.conforms) <| .cons (.map fun c _ => c.conforms) <|
    .cons (.unlessEmpty fun o _ => o.conforms) .nil

theorem ofJson?_toJson (r : Rule) (h : r.Expressible) : ofJson? r.toJson = some r := by
  simp [ofJson?, toJson, Json.string?, Json.word?, Json.readUnlessNull_string,
    Condition.readUnlessNull_map h.target, Condition.readUnlessNull_map h.condition,
    Obligation.withDefault_unlessEmpty h.obligations]

theorem slotOfJson?_orNull (s : Option Rule) (h : ∀ r ∈ s, r.Expressible) :
    slotOfJson? (Json.orNull (·.toJson) s) = some s := by
  cases s with
  | none => rfl
  | some r =>
    have hread := r.ofJson?_toJson (h r rfl)
    simpa [Json.orNull, toJson, Json.record, slotOfJson?] using hread

end Rule

theorem Json.int32?_toInt (n : Int32) : int32? (.integer n.toInt) = some n := by
  have hfits : fitsSigned 32 n.toInt := decide_eq_true ⟨n.le_toInt, n.toInt_lt⟩
  simp [int32?, integer?, hfits]

namespace Policy

structure Expressible (p : Policy) : Prop where
  target : ∀ c ∈ p.target, c.Expressible
  rules : ∀ slots ∈ p.rules, ∀ s ∈ slots, ∀ r ∈ s, r.Expressible
  obligations : ∀ o ∈ p.obligations, o.Expressible

theorem fields_conform (p : Policy) : List.Forall₂ FieldConforms p.toFields RecordKind.policy.fields :=
  have hslots : ∀ slots ∈ p.rules,
      Conforms (.list (.orNull (.record .rule))) (.array (slots.map (Json.orNull (·.toJson)))) := by
    refine fun slots _ => .list (List.forall_mem_map.2 fun s _ => ?_)
    cases s with
    | none => exact .null _
    | some r => exact .orNull r.conforms
  .cons (.there (.text _)) <| .cons (.map fun _ _ => .text _) <| .cons (.there (.text _)) <|
    .cons (.map fun c _ => c.conforms) <| .cons (.orNull fun _ _ => .word _ _) <| .cons (.orNull hslots) <|
    .cons (.unlessEmpty fun o _ => o.conforms) <| .cons (.there (.value _)) <| .cons (.there (.value _)) .nil

theorem ofMembers?_toFields (p : Policy) (h : p.Expressible) :
    ofMembers? (Json.present (("kind", some (.string "policy")) :: p.toFields)) = some p := by
  have halgorithm : readUnlessNull (Json.word? RuleAlgorithm.ofUrn?)
      (some (Json.orNull (fun a => .string a.urn) p.algorithm)) = some p.algorithm :=
    Json.readUnlessNull_orNull (fun _ _ => nofun) fun a _ => by simp [Json.word?, Json.string?]
  have hrules : readUnlessNull (Json.array? Rule.slotOfJson?)
      (some (Json.orNull (fun slots => .array (slots.map (Json.orNull (·.toJson)))) p.rules)) = some p.rules :=
    Json.readUnlessNull_orNull (fun _ _ => nofun) fun slots hslots =>
      mapM_map fun s hs => Rule.slotOfJson?_orNull s (h.rules slots hslots s hs)
  simp [ofMembers?, toFields, Json.string?, Json.bool?, Json.readUnlessNull_string, Json.int32?_toInt,
    Condition.readUnlessNull_map h.target, halgorithm, hrules,
    Obligation.withDefault_unlessEmpty h.obligations]

end Policy

namespace PolicySetHeader

structure Expressible (h : PolicySetHeader) : Prop where
  target : ∀ c ∈ h.target, c.Expressible
  obligations : ∀ o ∈ h.obligations, o.Expressible

theorem fields_conform (h : PolicySetHeader) {children : Json}
    (hchildren : Conforms (.orNull (.list (.orNull .node))) children) :
    List.Forall₂ FieldConforms (h.toFields children) RecordKind.policySet.fields :=
  .cons (.there (.text _)) <| .cons (.map fun _ _ => .text _) <| .cons (.map fun c _ => c.conforms) <|
    .cons (.orNull fun _ _ => .word _ _) <| .cons (.there hchildren) <|
    .cons (.unlessEmpty fun o _ => o.conforms) <| .cons (.there (.value _)) <| .cons (.there (.value _)) .nil

theorem ofMembers?_toFields (header : PolicySetHeader) (children : Json) (h : header.Expressible) :
    ofMembers? (Json.present (("kind", some (.string "policySet")) :: header.toFields children)) =
      some header := by
  have halgorithm : readUnlessNull (Json.word? PolicyAlgorithm.ofUrn?)
      (some (Json.orNull (fun a => .string a.urn) header.algorithm)) = some header.algorithm :=
    Json.readUnlessNull_orNull (fun _ _ => nofun) fun a _ => by simp [Json.word?, Json.string?]
  simp [ofMembers?, toFields, Json.string?, Json.bool?, Json.readUnlessNull_string, Json.int32?_toInt,
    Condition.readUnlessNull_map h.target, halgorithm, Obligation.withDefault_unlessEmpty h.obligations]

end PolicySetHeader

namespace Node

mutual

/-- Whether no operand in a tree is null and all that its obligations assign is in its stored form. -/
def Expressible : Node → Prop
  | policy p => p.Expressible
  | policySet h children => h.Expressible ∧ ChildrenExpressible children
  | reference _ => True

def ChildrenExpressible : Option (List (Option Node)) → Prop
  | none => True
  | some slots => SlotsExpressible slots

def SlotsExpressible : List (Option Node) → Prop
  | [] => True
  | s :: slots => SlotExpressible s ∧ SlotsExpressible slots

def SlotExpressible : Option Node → Prop
  | none => True
  | some n => n.Expressible

end

mutual

theorem conforms : (n : Node) → Conforms .node n.toJson
  | policy p => Json.conforms_node p.fields_conform (by decide)
  | policySet h children => Json.conforms_node (h.fields_conform (children_conform children)) (by decide)
  | reference _ =>
    have hid : List.Forall₂ FieldConforms [("id", some (.string _))] RecordKind.reference.fields :=
      .cons (.there (.text _)) .nil
    Json.conforms_node hid (by decide)

theorem children_conform : (children : Option (List (Option Node))) →
    Conforms (.orNull (.list (.orNull .node))) (childrenToJson children)
  | none => .null _
  | some slots => .orNull (.list (slots_conform slots))

theorem slots_conform : (slots : List (Option Node)) → ∀ j ∈ slotsToJson slots, Conforms (.orNull .node) j
  | [] => by simp [slotsToJson]
  | s :: slots => by
    rw [slotsToJson, List.forall_mem_cons]
    exact ⟨slot_conforms s, slots_conform slots⟩

theorem slot_conforms : (s : Option Node) → Conforms (.orNull .node) (slotToJson s)
  | none => .null _
  | some n => .orNull (conforms n)

end

theorem childrenOfMembers?_eq (ms : List (String × Json)) :
    childrenOfMembers? ms =
      match ms.find? (·.1 = "children") with
      | none => some none
      | some m => childrenOfJson? m.2 := by
  induction ms with
  | nil => rfl
  | cons m ms ih => by_cases h : m.1 = "children" <;> simp [childrenOfMembers?, h, ih]

theorem toJson_ne_null (n : Node) : n.toJson ≠ .null := by
  cases n <;> simp [toJson, ofKind, Json.record]

mutual

theorem ofJson?_toJson : (n : Node) → n.Expressible → ofJson? n.toJson = some n
  | policy p, h => by
    have hread := p.ofMembers?_toFields h
    rw [toJson, ofKind, Json.record_eq, ofJson?, hread]
    simp [Json.string?, Policy.toFields]
  | policySet header children, h => by
    have hread := header.ofMembers?_toFields (childrenToJson children) h.1
    have hchildren := childrenOfJson?_childrenToJson children h.2
    rw [toJson, ofKind, Json.record_eq, ofJson?, hread, childrenOfMembers?_eq]
    simp [Json.string?, PolicySetHeader.toFields, Json.field?_present, Json.find?_present, hchildren]
  | reference id, _ => by
    rw [toJson, ofKind, Json.record_eq, ofJson?]
    simp [Json.string?]

theorem childrenOfJson?_childrenToJson : (children : Option (List (Option Node))) →
    ChildrenExpressible children → childrenOfJson? (childrenToJson children) = some children
  | none, _ => rfl
  | some slots, h => by
    rw [childrenToJson, childrenOfJson?, slotsOfJson?_slotsToJson slots h]
    rfl

theorem slotsOfJson?_slotsToJson : (slots : List (Option Node)) → SlotsExpressible slots →
    slotsOfJson? (slotsToJson slots) = some slots
  | [], _ => rfl
  | none :: slots, h => by
    rw [slotsToJson, slotToJson, slotsOfJson?, slotsOfJson?_slotsToJson slots h.2]
    rfl
  | some n :: slots, h => by
    rw [slotsToJson, slotToJson, slotsOfJson?, ofJson?_toJson n h.1, slotsOfJson?_slotsToJson slots h.2]
    exact toJson_ne_null n

end

end Node

namespace Document

def Expressible (d : Document) : Prop := ∀ n ∈ d.policies, n.Expressible

theorem conforms (d : Document) : Conforms (.record .document) d.toJson :=
  Json.conforms_record <|
    .cons (.there (.text _)) <| .cons (.there (.text _)) <|
    .cons (.there (.list (List.forall_mem_map.2 fun n _ => n.conforms))) .nil

theorem ofJson?_toJson (d : Document) (h : d.Expressible) : ofJson? d.toJson = some d := by
  have hpolicies : Json.array? Node.ofJson? (.array (d.policies.map (·.toJson))) = some d.policies :=
    mapM_map fun n hn => n.ofJson?_toJson (h n hn)
  simp [ofJson?, toJson, Json.string?, hpolicies]

end Document

end Arbiter
