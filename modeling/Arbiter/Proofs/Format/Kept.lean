import Arbiter.Proofs.Format.Policy
import Arbiter.Proofs.Json.Stored
import Arbiter.Proofs.Json.Yield
import Arbiter.Proofs.Number.Rounding

namespace Arbiter

open Json (Yields Kept fits_record fits_map fits_orNull fits_unlessEmpty)

theorem Json.natAbs_le_of_hasNumeral {n : Int} (h : (Json.integer n).hasNumeral) : n.natAbs ≤ 2 ^ 64 := by
  simp [hasNumeral, fitsSigned, fitsUnsigned] at h
  omega

theorem Json.hasNumeral_toInt (n : Int32) : (Json.integer n.toInt).hasNumeral := by
  have hlow := n.le_toInt
  have hhigh := n.toInt_lt
  have hfits : fitsSigned 64 n.toInt := decide_eq_true ⟨by simp; omega, by simp; omega⟩
  rw [hasNumeral, hfits, Bool.true_or]

namespace Operand

theorem itemsOfJson?_eq (items : List Json) : itemsOfJson? items = items.mapM ofJson? := by
  induction items with
  | nil => rfl
  | cons j js ih =>
    rw [itemsOfJson?, ih, List.mapM_cons]
    cases ofJson? j <;> cases js.mapM ofJson? <;> rfl

theorem itemsToJson_eq (items : List Operand) : itemsToJson items = items.map toJson := by
  induction items with
  | nil => rfl
  | cons o os ih => rw [itemsToJson, ih, List.map_cons]

theorem yields : Yields ofJson? fun room o => o.toJson.Fits room := by
  intro room j o hj h
  induction j using Json.induct generalizing room o with
  | null | bool | string | double =>
    cases h
    exact hj
  | integer n =>
    cases h
    rw [ofInt]
    split
    · rename_i hfits
      obtain ⟨hlow, hhigh⟩ := of_decide_eq_true hfits
      rw [toJson, Int64.toInt_ofInt_of_le hlow hhigh]
      exact hj
    · have hbound := Json.natAbs_le_of_hasNumeral (Json.fits_integer.1 hj)
      exact Json.fits_double.2 (Binary64.isFinite_ofInt hbound)
  | object => cases h
  | array items ih =>
    obtain ⟨os, hos, rfl⟩ := Option.map_eq_some_iff.1 h
    rw [itemsOfJson?_eq] at hos
    obtain ⟨hroom, hitems⟩ := Json.fits_array.1 hj
    rw [toJson, itemsToJson_eq]
    refine Json.fits_array.2 ⟨hroom, List.forall_mem_map.2 fun o ho => ?_⟩
    obtain ⟨i, hi, hread⟩ := exists_of_mapM hos o ho
    exact ih i hi (hitems i hi) hread

theorem ofJson?_eq_null {j : Json} (h : ofJson? j = some null) : j = .null := by
  cases j <;> simp_all [ofJson?, ofInt]
  split at h <;> cases h

end Operand

theorem Designator.yields : Yields ofJson? fun room d => d.toJson.Fits room := by
  intro room j d hj h
  simp only [ofJson?, Option.bind_eq_bind, Option.bind_eq_some_iff, Json.members?_eq_some] at h
  obtain ⟨ms, rfl, -⟩ := h
  refine fits_record.2 ⟨(Json.fits_object.1 hj).1, ?_⟩
  simp only [List.forall_mem_cons]
  exact ⟨by simp, by simp, by simp, fits_map fun _ _ => Json.fits_string _, by simp, List.forall_mem_nil _⟩

namespace Condition

theorem allOfJson?_eq (items : List Json) : allOfJson? items = items.mapM ofJson? := by
  induction items with
  | nil => rfl
  | cons j js ih =>
    rw [allOfJson?, ih, List.mapM_cons]
    cases ofJson? j <;> cases js.mapM ofJson? <;> rfl

theorem allToJson_eq (cs : List Condition) : allToJson cs = cs.map toJson := by
  induction cs with
  | nil => rfl
  | cons c cs ih => rw [allToJson, ih, List.map_cons]

theorem allExpressible_iff (cs : List Condition) : AllExpressible cs ↔ ∀ c ∈ cs, c.Expressible := by
  induction cs with
  | nil => simp [AllExpressible]
  | cons c cs ih => rw [AllExpressible, ih, List.forall_mem_cons]

/-- Both a condition and the list of nested ones are kept, whichever a value is read as. -/
theorem yields_and_nested (j : Json) :
    (∀ ⦃room c⦄, j.Fits room → ofJson? j = some c → Kept toJson Expressible room c) ∧
      ∀ ⦃room cs⦄, j.Fits room → nestedOfJson? j = some cs →
        ∀ c ∈ cs, 0 < room ∧ Kept toJson Expressible (room - 1) c := by
  -- An object is read as a condition by what is read of its members as lists, and a list by what is read of its
  -- items as conditions, so neither reading has an induction of its own.
  induction j using Json.induct with
  | null | bool | integer | double | string => exact ⟨nofun, nofun⟩
  | array items ih =>
    refine ⟨nofun, fun room cs hj h c hc => ?_⟩
    obtain ⟨hroom, hitems⟩ := Json.fits_array.1 hj
    rw [nestedOfJson?, allOfJson?_eq] at h
    obtain ⟨i, hi, hread⟩ := exists_of_mapM h c hc
    exact ⟨hroom, (ih i hi).1 (hitems i hi) hread⟩
  | object ms ih =>
    refine ⟨fun room c hj h => ?_, nofun⟩
    obtain ⟨hroom, hms⟩ := Json.fits_object.1 hj
    simp only [ofJson?, Option.bind_eq_bind, Option.bind_eq_some_iff, Option.pure_def, Option.some.injEq] at h
    obtain ⟨-, -, operator, -, designator, hdesignator, operand, hoperand, nested, hnested, rfl⟩ := h
    have hnull : operand ≠ some .null := by
      rintro rfl
      obtain ⟨j, -, hj, hread⟩ := Json.exists_of_optional hoperand .null rfl
      exact hj (Operand.ofJson?_eq_null hread)
    have hkept : ∀ c ∈ nested, 0 < room - 1 ∧ Kept toJson Expressible (room - 1 - 1) c := by
      rw [nestedOfMembers?_eq] at hnested
      split at hnested
      · cases hnested
        simp
      · rename_i m hm
        have hmem := List.mem_of_find?_eq_some hm
        exact (ih m hmem).2 (hms m hmem) hnested
    refine ⟨?_, hnull, (allExpressible_iff nested).2 fun c hc => (hkept c hc).2.property⟩
    rw [toJson, allToJson_eq]
    refine fits_record.2 ⟨hroom, ?_⟩
    simp only [List.forall_mem_cons]
    exact ⟨by simp, fits_map (Designator.yields.optional hms hdesignator),
      fits_map (Operand.yields.optional hms hoperand),
      fits_unlessEmpty hkept, List.forall_mem_nil _⟩

theorem yields : Yields ofJson? (Kept toJson Expressible) := fun _ j _ hj h =>
  (yields_and_nested j).1 hj h

end Condition

theorem Json.yields_free : Yields (fun v => some v.free) (Kept id fun v => v.free = v) := by
  rintro room j v hj ⟨⟩
  exact ⟨hj.free, free_free j⟩

theorem Assignment.yields : Yields ofJson? (Kept toJson fun a => a.value.free = a.value) := by
  intro room j a hj h
  simp only [ofJson?, Option.bind_eq_bind, Option.bind_eq_some_iff, Json.members?_eq_some, Option.pure_def,
    Option.some.injEq] at h
  obtain ⟨ms, rfl, id, -, value, hvalue, rfl⟩ := h
  obtain ⟨hroom, hms⟩ := Json.fits_object.1 hj
  have hkept := Json.yields_free.required hms hvalue
  refine ⟨fits_record.2 ⟨hroom, ?_⟩, hkept.property⟩
  simp only [List.forall_mem_cons]
  exact ⟨by simp, by simpa using hkept.fits, List.forall_mem_nil _⟩

theorem Obligation.yields : Yields ofJson? (Kept toJson Expressible) := by
  intro room j o hj h
  simp only [ofJson?, Option.bind_eq_bind, Option.bind_eq_some_iff, Json.members?_eq_some, Option.pure_def,
    Option.some.injEq] at h
  obtain ⟨ms, rfl, id, -, effect, -, assignments, hassignments, rfl⟩ := h
  obtain ⟨hroom, hms⟩ := Json.fits_object.1 hj
  have hkept := Assignment.yields.list hms hassignments
  refine ⟨fits_record.2 ⟨hroom, ?_⟩, fun a ha => (hkept a ha).2.property⟩
  simp only [List.forall_mem_cons]
  exact ⟨by simp, by simp, fits_unlessEmpty hkept, List.forall_mem_nil _⟩

namespace Rule

theorem yields : Yields ofJson? (Kept toJson Expressible) := by
  intro room j r hj h
  simp only [ofJson?, Option.bind_eq_bind, Option.bind_eq_some_iff, Json.members?_eq_some, Option.pure_def,
    Option.some.injEq] at h
  obtain ⟨ms, rfl, id, -, description, -, effect, -, target, htarget, condition, hcondition, obligations,
    hobligations, rfl⟩ := h
  obtain ⟨hroom, hms⟩ := Json.fits_object.1 hj
  have htarget := Condition.yields.optional hms htarget
  have hcondition := Condition.yields.optional hms hcondition
  have hobligations := Obligation.yields.list hms hobligations
  refine ⟨fits_record.2 ⟨hroom, ?_⟩, fun c hc => (htarget c hc).property,
    fun c hc => (hcondition c hc).property, fun o ho => (hobligations o ho).2.property⟩
  simp only [List.forall_mem_cons]
  exact ⟨by simp, fits_map fun _ _ => Json.fits_string _, by simp, fits_map fun c hc => (htarget c hc).fits,
    fits_map fun c hc => (hcondition c hc).fits,
    fits_unlessEmpty hobligations, List.forall_mem_nil _⟩

theorem yields_slot :
    Yields slotOfJson? (Kept (Json.orNull (·.toJson)) fun s : Option Rule => ∀ r ∈ s, r.Expressible) := by
  intro room j s hj h
  unfold slotOfJson? at h
  split at h
  · cases h
    exact ⟨Json.fits_null, nofun⟩
  · obtain ⟨r, hr, rfl⟩ := Option.map_eq_some_iff.1 h
    have hkept := yields hj hr
    refine ⟨hkept.fits, ?_⟩
    rintro r ⟨⟩
    exact hkept.property

end Rule

theorem Policy.yields {room : Nat} {ms : List (String × Json)} (hms : ∀ m ∈ ms, m.2.Fits room) {p : Policy}
    (h : ofMembers? ms = some p) :
    (∀ f ∈ p.toFields, ∀ j ∈ f.2, j.Fits room) ∧ p.Expressible := by
  simp only [ofMembers?, Option.bind_eq_bind, Option.bind_eq_some_iff, Option.pure_def,
    Option.some.injEq] at h
  obtain ⟨id, -, description, -, version, -, target, htarget, algorithm, -, rules, hrules, obligations,
    hobligations, enabled, -, priority, -, rfl⟩ := h
  have htarget := Condition.yields.optional hms htarget
  have hrules := Rule.yields_slot.array.optional hms hrules
  have hobligations := Obligation.yields.list hms hobligations
  refine ⟨?_, fun c hc => (htarget c hc).property,
    fun slots hslots s hs => ((hrules slots hslots).2 s hs).property,
    fun o ho => (hobligations o ho).2.property⟩
  have hslots : ∀ slots ∈ rules, (Json.array (slots.map (Json.orNull (·.toJson)))).Fits room :=
    fun slots hslots => Json.fits_array.2 ⟨(hrules slots hslots).1,
      List.forall_mem_map.2 fun s hs => ((hrules slots hslots).2 s hs).fits⟩
  simp only [toFields, List.forall_mem_cons]
  exact ⟨by simp, fits_map fun _ _ => Json.fits_string _, by simp, fits_map fun c hc => (htarget c hc).fits,
    by simpa using fits_orNull fun _ _ => Json.fits_string _, by simpa using fits_orNull hslots,
    fits_unlessEmpty hobligations, by simp, by simpa using Json.hasNumeral_toInt priority,
    List.forall_mem_nil _⟩

theorem PolicySetHeader.yields {room : Nat} {ms : List (String × Json)} (hms : ∀ m ∈ ms, m.2.Fits room)
    {header : PolicySetHeader} (h : ofMembers? ms = some header) {children : Json}
    (hchildren : children.Fits room) :
    (∀ f ∈ header.toFields children, ∀ j ∈ f.2, j.Fits room) ∧ header.Expressible := by
  simp only [ofMembers?, Option.bind_eq_bind, Option.bind_eq_some_iff, Option.pure_def,
    Option.some.injEq] at h
  obtain ⟨id, -, description, -, target, htarget, algorithm, -, obligations, hobligations, enabled, -,
    priority, -, rfl⟩ := h
  have htarget := Condition.yields.optional hms htarget
  have hobligations := Obligation.yields.list hms hobligations
  refine ⟨?_, fun c hc => (htarget c hc).property, fun o ho => (hobligations o ho).2.property⟩
  simp only [toFields, List.forall_mem_cons]
  exact ⟨by simp, fits_map fun _ _ => Json.fits_string _, fits_map fun c hc => (htarget c hc).fits,
    by simpa using fits_orNull fun _ _ => Json.fits_string _, by simpa using hchildren,
    fits_unlessEmpty hobligations, by simp, by simpa using Json.hasNumeral_toInt priority,
    List.forall_mem_nil _⟩

namespace Node

/-- Reads a node, or null for an empty slot. -/
def slotOfJson? : Json → Option (Option Node)
  | .null => some none
  | j => (ofJson? j).map some

theorem slotsOfJson?_eq (items : List Json) : slotsOfJson? items = items.mapM slotOfJson? := by
  induction items with
  | nil => rfl
  | cons j js ih =>
    rw [List.mapM_cons, ← ih]
    by_cases hj : j = .null
    · subst hj
      rw [slotsOfJson?, slotOfJson?]
      cases slotsOfJson? js <;> rfl
    · rw [slotsOfJson?, slotOfJson?]
      · cases ofJson? j <;> cases slotsOfJson? js <;> rfl
      · exact hj
      · exact hj

theorem slotsToJson_eq (slots : List (Option Node)) : slotsToJson slots = slots.map slotToJson := by
  induction slots with
  | nil => rfl
  | cons s slots ih => rw [slotsToJson, ih, List.map_cons]

theorem slotsExpressible_iff (slots : List (Option Node)) :
    SlotsExpressible slots ↔ ∀ s ∈ slots, SlotExpressible s := by
  induction slots with
  | nil => simp [SlotsExpressible]
  | cons s slots ih => rw [SlotsExpressible, ih, List.forall_mem_cons]

theorem kept_slot {room : Nat} {j : Json}
    (hnode : ∀ ⦃n⦄, ofJson? j = some n → Kept toJson Expressible room n) {s : Option Node}
    (h : slotOfJson? j = some s) : Kept slotToJson SlotExpressible room s := by
  unfold slotOfJson? at h
  split at h
  · cases h
    exact ⟨Json.fits_null, trivial⟩
  · obtain ⟨n, hn, rfl⟩ := Option.map_eq_some_iff.1 h
    obtain ⟨hfits, hexpressible⟩ := hnode hn
    exact ⟨hfits, hexpressible⟩

theorem kept_children {room : Nat} {ms : List (String × Json)}
    (hfield : ∀ m ∈ ms, ∀ ⦃children⦄, childrenOfJson? m.2 = some children →
      Kept childrenToJson ChildrenExpressible room children)
    {children : Option (List (Option Node))} (h : childrenOfMembers? ms = some children) :
    Kept childrenToJson ChildrenExpressible room children := by
  rw [childrenOfMembers?_eq] at h
  split at h
  · cases h
    exact ⟨Json.fits_null, trivial⟩
  · rename_i m hm
    exact hfield m (List.mem_of_find?_eq_some hm) h

/-- Both a node and the children of a set are kept, whichever a value is read as. -/
theorem yields_and_children (j : Json) :
    (∀ ⦃room n⦄, j.Fits room → ofJson? j = some n → Kept toJson Expressible room n) ∧
      ∀ ⦃room children⦄, j.Fits room → childrenOfJson? j = some children →
        Kept childrenToJson ChildrenExpressible room children := by
  induction j using Json.induct with
  | null =>
    refine ⟨nofun, ?_⟩
    rintro room children hj ⟨⟩
    exact ⟨hj, trivial⟩
  | bool | integer | double | string => exact ⟨nofun, nofun⟩
  | array items ih =>
    refine ⟨nofun, fun room children hj h => ?_⟩
    obtain ⟨hroom, hitems⟩ := Json.fits_array.1 hj
    obtain ⟨slots, hslots, rfl⟩ := Option.map_eq_some_iff.1 h
    rw [slotsOfJson?_eq] at hslots
    have hkept : ∀ s ∈ slots, Kept slotToJson SlotExpressible (room - 1) s := by
      intro s hs
      obtain ⟨i, hi, hread⟩ := exists_of_mapM hslots s hs
      exact kept_slot (fun _ hn => (ih i hi).1 (hitems i hi) hn) hread
    refine ⟨?_, (slotsExpressible_iff slots).2 fun s hs => (hkept s hs).property⟩
    rw [childrenToJson, slotsToJson_eq]
    exact Json.fits_array.2 ⟨hroom, List.forall_mem_map.2 fun s hs => (hkept s hs).fits⟩
  | object ms ih =>
    refine ⟨fun room n hj h => ?_, nofun⟩
    obtain ⟨hroom, hms⟩ := Json.fits_object.1 hj
    have hkind : ∀ {kind : String} {fields : List (String × Option Json)},
        (∀ f ∈ fields, ∀ j ∈ f.2, j.Fits (room - 1)) → (ofKind kind fields).Fits room := fun h =>
      fits_record.2 ⟨hroom, List.forall_mem_cons.2 ⟨by simp, h⟩⟩
    simp only [ofJson?, Option.bind_eq_bind, Option.bind_eq_some_iff, Option.pure_def] at h
    obtain ⟨kind, -, h⟩ := h
    split at h
    · obtain ⟨p, hp, hn⟩ := Option.bind_eq_some_iff.1 h
      cases hn
      obtain ⟨hfields, hp⟩ := Policy.yields hms hp
      exact ⟨hkind hfields, hp⟩
    · simp only [Option.bind_eq_some_iff, Option.some.injEq] at h
      obtain ⟨-, -, header, hheader, children, hchildren, rfl⟩ := h
      have hchildren := kept_children (fun m hm _ h => (ih m hm).2 (hms m hm) h) hchildren
      obtain ⟨hfields, hheader⟩ := PolicySetHeader.yields hms hheader hchildren.fits
      exact ⟨hkind hfields, hheader, hchildren.property⟩
    · obtain ⟨id, -, hn⟩ := Option.bind_eq_some_iff.1 h
      cases hn
      exact ⟨hkind (by simp), trivial⟩
    · cases h

theorem yields : Yields ofJson? (Kept toJson Expressible) := fun _ j _ hj h =>
  (yields_and_children j).1 hj h

end Node

/-- A document is written with its list of policies, even an empty one that was not there to be read. -/
theorem Document.yields {room : Nat} (hroom : 2 ≤ room) {j : Json} (hj : j.Fits room) {d : Document}
    (h : ofJson? j = some d) : Kept toJson Expressible room d := by
  simp only [ofJson?, Option.bind_eq_bind, Option.bind_eq_some_iff, Json.members?_eq_some, Option.pure_def,
    Option.some.injEq] at h
  obtain ⟨ms, rfl, version, -, kind, -, policies, hpolicies, rfl⟩ := h
  have hkept := Node.yields.list (Json.fits_object.1 hj).2 hpolicies
  refine ⟨fits_record.2 ⟨by omega, ?_⟩, fun n hn => (hkept n hn).2.property⟩
  have hnodes : (Json.array (policies.map (·.toJson))).Fits (room - 1) :=
    Json.fits_array.2 ⟨by omega, List.forall_mem_map.2 fun n hn => (hkept n hn).2.fits⟩
  simp only [List.forall_mem_cons]
  exact ⟨by simp, by simp, by simpa using hnodes, List.forall_mem_nil _⟩

end Arbiter
