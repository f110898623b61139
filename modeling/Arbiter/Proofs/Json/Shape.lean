import Arbiter.Proofs.Json.Fits
import Arbiter.Shape.Json

namespace Arbiter

namespace Json

/-- Whether a value is spelled as its shape has it: words alone, records with known fields only, nodes with
their kinds first. -/
inductive Conforms : Shape → Json → Prop
  | value (j : Json) : Conforms .value j
  | text (s : String) : Conforms .text (string s)
  | word (names : List String) (s : String) : Conforms (.word names) (string s)
  | list {item : Shape} {items : List Json} :
    (∀ j ∈ items, Conforms item j) → Conforms (.list item) (array items)
  | record {k : RecordKind} {members : List (String × Json)} :
    (∀ m ∈ members, (k.field? m.1).isSome) →
    (∀ m ∈ members, ∀ s, k.field? m.1 = some s → Conforms s m.2) →
    Conforms (.record k) (object members)
  | node {name : String} {k : RecordKind} {members : List (String × Json)} :
    (name, k) ∈ RecordKind.nodes → (∀ m ∈ members, (k.field? m.1).isSome) →
    (∀ m ∈ members, ∀ s, k.field? m.1 = some s → Conforms s m.2) →
    Conforms .node (object (("kind", string name) :: members))
  | null (s : Shape) : Conforms (.orNull s) null
  | orNull {s : Shape} {j : Json} : Conforms s j → Conforms (.orNull s) j

/-- The fields of nodes leave the name of their kind free. -/
theorem field?_kind {name : String} {k : RecordKind} (h : (name, k) ∈ RecordKind.nodes) :
    k.field? "kind" = none := by
  simp only [RecordKind.nodes, List.mem_cons, List.not_mem_nil, or_false, Prod.mk.injEq] at h
  obtain ⟨-, rfl⟩ | ⟨-, rfl⟩ | ⟨-, rfl⟩ := h <;> rfl

theorem find?_nodes {name : String} {k : RecordKind} (h : (name, k) ∈ RecordKind.nodes) :
    RecordKind.nodes.find? (·.1 = name) = some (name, k) := by
  simp only [RecordKind.nodes, List.mem_cons, List.not_mem_nil, or_false, Prod.mk.injEq] at h
  obtain ⟨rfl, rfl⟩ | ⟨rfl, rfl⟩ | ⟨rfl, rfl⟩ := h <;> rfl

theorem filter_kind {name : String} {k : RecordKind} (hk : (name, k) ∈ RecordKind.nodes)
    {members : List (String × Json)} (hknown : ∀ m ∈ members, (k.field? m.1).isSome) :
    members.filter (·.1 = "kind") = [] := by
  rw [List.filter_eq_nil_iff]
  intro m hm h
  have hsome := hknown m hm
  rw [of_decide_eq_true h, field?_kind hk] at hsome
  cases hsome

end Json

namespace Content

open Json

theorem fieldAt?_string (k : RecordKind) (name : String) :
    k.fieldAt? (string name) = some ((k.field? name).map (name, ·)) := by
  simp only [RecordKind.fieldAt?, RecordKind.field?, Option.map_map]
  cases h : k.fields.find? (·.1 = name) with
  | none => rfl
  | some f =>
    have hname : f.1 = name := by simpa using List.find?_some h
    simp [← hname]

theorem castFields?_ofMembers {k : RecordKind} :
    {members : List (String × Json)} → (∀ m ∈ members, (k.field? m.1).isSome) →
      (∀ m ∈ members, ∀ s, k.field? m.1 = some s → (ofJson m.2).cast? s = some m.2) →
      castFields? k (ofMembers members) = some members
  | [], _, _ => rfl
  | (name, j) :: rest, hknown, hread => by
    obtain ⟨hname, hknown⟩ := List.forall_mem_cons.1 hknown
    obtain ⟨hj, hread⟩ := List.forall_mem_cons.1 hread
    obtain ⟨s, hs⟩ := Option.isSome_iff_exists.1 hname
    simp [ofMembers, castFields?, fieldAt?_string, hs, hj s hs, castFields?_ofMembers hknown hread]

theorem ofItems_eq (items : List Json) : ofItems items = items.map ofJson := by
  induction items with
  | nil => rfl
  | cons x xs ih => rw [ofItems, ih, List.map_cons]

theorem castItems?_eq (item : Shape) (cs : List Content) : castItems? item cs = cs.mapM (cast? item) := by
  induction cs with
  | nil => rfl
  | cons c cs ih => rw [castItems?, ih, List.mapM_cons]

theorem cast?_orNull (s : Shape) (c : Content) (hc : c ≠ null) : c.cast? (.orNull s) = c.cast? s := by
  cases c <;> simp_all [cast?, Shape.core]

theorem cast?_value (c : Content) : c.cast? .value = c.json? := by
  cases c <;> simp [cast?, Shape.core, Shape.isNullable, json?]

theorem kind?_ofMembers {name : String} {k : RecordKind} (hk : (name, k) ∈ RecordKind.nodes)
    {members : List (String × Json)} (hknown : ∀ m ∈ members, (k.field? m.1).isSome) :
    kind? (ofMembers (("kind", .string name) :: members)) = some (name, k) := by
  have hfilter : ∀ ms, (ofMembers ms).filter (·.1.isKindKey) = ofMembers (ms.filter (·.1 = "kind")) := by
    intro ms
    induction ms with
    | nil => rfl
    | cons m ms ih => by_cases hm : m.1 = "kind" <;> simp_all [ofMembers, isKindKey]
  rw [kind?, hfilter, List.filter_cons_of_pos (by simp), filter_kind hk hknown]
  simp only [ofMembers, ofJson, RecordKind.ofContent?, find?_nodes hk]

theorem cast?_ofJson {s : Shape} {j : Json} (h : Conforms s j) : (ofJson j).cast? s = some j := by
  induction h with
  | value j => rw [cast?_value, json?_ofJson]
  | text | word => rfl
  | list _ ih => simp [ofJson, cast?, Shape.core, castItems?_eq, ofItems_eq, mapM_map ih]
  | record hknown _ ih => simp [ofJson, cast?, Shape.core, castFields?_ofMembers hknown ih]
  | @node name k members hk hknown _ ih =>
    have hskip : castFields? k (ofMembers (("kind", .string name) :: members)) = some members := by
      simp [ofMembers, castFields?, fieldAt?_string, field?_kind hk, castFields?_ofMembers hknown ih]
    simp [ofJson, cast?, Shape.core, kind?_ofMembers hk hknown, hskip]
  | null => rfl
  | @orNull s j _ ih =>
    cases j with
    | null => rfl
    | integer n => rw [cast?_orNull _ _ (by simp only [ofJson]; split <;> simp), ih]
    | _ => rw [cast?_orNull _ _ (by simp [ofJson]), ih]

end Content

namespace Json.Tree

theorem castFields?_ofMembers {room : Nat} {k : RecordKind} :
    {members : List (String × Json)} → (∀ m ∈ members, (k.field? m.1).isSome) →
      (∀ m ∈ members, ∀ s, k.field? m.1 = some s → (ofJson m.2).cast? room s = some m.2) →
      castFields? room k (ofMembers members) = some members
  | [], _, _ => rfl
  | (name, j) :: rest, hknown, hread => by
    obtain ⟨hname, hknown⟩ := List.forall_mem_cons.1 hknown
    obtain ⟨hj, hread⟩ := List.forall_mem_cons.1 hread
    obtain ⟨s, hs⟩ := Option.isSome_iff_exists.1 hname
    simp [ofMembers, castFields?, hs, hj s hs, castFields?_ofMembers hknown hread]

theorem castItems?_eq (room : Nat) (item : Shape) (ts : List Tree) :
    castItems? room item ts = ts.mapM (cast? room item) := by
  induction ts with
  | nil => rfl
  | cons t ts ih => rw [castItems?, ih, List.mapM_cons]

theorem cast?_orNull (room : Nat) (s : Shape) (t : Tree) (ht : t ≠ null) :
    t.cast? room (.orNull s) = t.cast? room s := by
  cases t <;> simp_all [cast?, Shape.core]

theorem cast?_value (room : Nat) (t : Tree) : t.cast? room .value = t.json? room := by
  cases t <;> simp +contextual [cast?, Shape.core, Shape.isNullable, json?]

theorem castNode?_node {name : String} {k : RecordKind} {members : List (String × Json)}
    (hk : (name, k) ∈ RecordKind.nodes) (hknown : ∀ m ∈ members, (k.field? m.1).isSome)
    (hread : ∀ m ∈ members, ∀ s, k.field? m.1 = some s → Conforms s m.2) :
    castNode? (.object (("kind", .string name) :: members)) =
      some (.object (("kind", .string name) :: members)) := by
  simpa [castNode?, filter_kind hk hknown] using Content.cast?_ofJson (.node hk hknown hread)

/-- What conforms to a shape is read in it as it is, if there is room. -/
theorem cast?_ofJson {s : Shape} {j : Json} (h : Conforms s j) (room : Nat) (hroom : j.Fits room) :
    (ofJson j).cast? room s = some j := by
  induction h generalizing room with
  | value j => rw [cast?_value, json?_ofJson hroom]
  | text | word => rfl
  | list _ ih =>
    obtain ⟨hpos, hitems⟩ := fits_array.1 hroom
    have hread := mapM_map fun j hj => ih j hj (room - 1) (hitems j hj)
    simp [ofJson, cast?, Shape.core, Nat.ne_of_gt hpos, castItems?_eq, ofItems_eq, hread]
  | record hknown _ ih =>
    obtain ⟨hpos, hmembers⟩ := fits_object.1 hroom
    have hread := castFields?_ofMembers hknown fun m hm s hs => ih m hm s hs (room - 1) (hmembers m hm)
    simp [ofJson, cast?, Shape.core, Nat.ne_of_gt hpos, hread]
  | node hk hknown hread =>
    have hpos := (fits_object.1 hroom).1
    have hjson := json?_ofJson hroom
    rw [ofJson] at hjson ⊢
    simp [cast?, Shape.core, Nat.ne_of_gt hpos, hjson, castNode?_node hk hknown hread]
  | null => rfl
  | @orNull s j _ ih =>
    cases j with
    | null => rfl
    | _ => rw [cast?_orNull _ _ _ (by simp [ofJson]), ih room hroom]

end Json.Tree

end Arbiter
