import Arbiter.Proofs.Json.Record

namespace Arbiter.Json

section

variable {p : Json → Prop} {room : Nat} {toJson : α → Json}

theorem fits_record {fields : List (String × Option Json)} :
    (record fields).FitsWith p room ↔ 0 < room ∧ ∀ f ∈ fields, ∀ j ∈ f.2, j.FitsWith p (room - 1) := by
  rw [record_eq, fits_object]
  refine and_congr_right fun _ => ⟨fun h f hf j hj => ?_, fun h m hm => ?_⟩
  · obtain ⟨name, o⟩ := f
    cases hj
    exact h (name, j) (mem_present.2 hf)
  · exact h _ (mem_present.1 hm) m.2 rfl

theorem fits_map {o : Option α} (h : ∀ x ∈ o, (toJson x).FitsWith p room) :
    ∀ j ∈ o.map toJson, j.FitsWith p room := by
  rintro j hj
  obtain ⟨x, hx, rfl⟩ := Option.map_eq_some_iff.1 hj
  exact h x hx

theorem fits_orNull {o : Option α} (h : ∀ x ∈ o, (toJson x).FitsWith p room) :
    (orNull toJson o).FitsWith p room := by
  cases o with
  | none => exact fits_null
  | some x => exact h x rfl

end

/-- Whether all that a reader takes from values that fit is good for that room. -/
def Yields (read : Json → Option α) (good : Nat → α → Prop) : Prop :=
  ∀ ⦃room : Nat⦄ ⦃j : Json⦄ ⦃x : α⦄, j.Fits room → read j = some x → good room x

/-- What can be written within a room and has a property. -/
structure Kept (toJson : α → Json) (property : α → Prop) (room : Nat) (x : α) : Prop where
  fits : (toJson x).Fits room
  property : property x

theorem fits_unlessEmpty {toJson : α → Json} {property : α → Prop} {room : Nat} {xs : List α}
    (h : ∀ x ∈ xs, 0 < room ∧ Kept toJson property (room - 1) x) :
    ∀ j ∈ unlessEmpty toJson xs, j.Fits room := by
  cases xs with
  | nil => nofun
  | cons x xs =>
    rintro j ⟨⟩
    exact fits_array.2 ⟨(h x List.mem_cons_self).1, List.forall_mem_map.2 fun y hy => (h y hy).2.fits⟩

theorem members?_eq_some {j : Json} {ms : List (String × Json)} : j.members? = some ms ↔ j = object ms := by
  cases j <;> simp [members?]

theorem mem_of_field? {name : String} {ms : List (String × Json)} {j : Json}
    (h : field? name ms = some (some j)) : (name, j) ∈ ms := by
  rw [field?] at h
  split at h <;> simp only [Option.some.injEq, reduceCtorEq] at h
  rename_i m hm
  obtain ⟨hmem, hname⟩ := List.mem_filter.1 (hm ▸ List.mem_singleton_self m)
  rw [← h, ← of_decide_eq_true hname]
  exact hmem

theorem exists_of_optional {name : String} {read : Json → Option α} {ms : List (String × Json)} {o : Option α}
    (h : optional name read ms = some o) : ∀ x ∈ o, ∃ j, (name, j) ∈ ms ∧ j ≠ null ∧ read j = some x := by
  rintro x rfl
  rw [optional] at h
  split at h
  · cases h
  · cases h
  · rename_i j hnull hj
    obtain ⟨y, hy, heq⟩ := Option.map_eq_some_iff.1 h
    cases heq
    exact ⟨j, mem_of_field? hj, hnull, hy⟩
  · cases h

theorem exists_of_withDefault {name : String} {default x : α} {read : Json → Option α}
    {ms : List (String × Json)} (h : withDefault name default read ms = some x) :
    x = default ∨ ∃ j, (name, j) ∈ ms ∧ read j = some x := by
  rw [withDefault] at h
  split at h
  · exact .inl (Option.some.inj h).symm
  · exact .inr ⟨_, mem_of_field? ‹_›, h⟩
  · cases h

/-- What is listed was read from the items of an array. -/
theorem exists_of_list {name : String} {read : Json → Option α} {ms : List (String × Json)} {xs : List α}
    (h : withDefault name [] (array? read) ms = some xs) :
    ∀ x ∈ xs, ∃ items, (name, array items) ∈ ms ∧ ∃ i ∈ items, read i = some x := by
  intro x hx
  obtain rfl | ⟨j, hj, hread⟩ := exists_of_withDefault h
  · cases hx
  · cases j with
    | array items => exact ⟨items, hj, exists_of_mapM hread x hx⟩
    | _ => cases hread

namespace Yields

variable {read : Json → Option α} {good : Nat → α → Prop} (h : Yields read good)

include h

theorem array : Yields (array? read) fun room xs => 0 < room ∧ ∀ x ∈ xs, good (room - 1) x := by
  intro room j xs hj hxs
  cases j with
  | array items =>
    obtain ⟨hroom, hitems⟩ := fits_array.1 hj
    refine ⟨hroom, fun x hx => ?_⟩
    obtain ⟨i, hi, hread⟩ := exists_of_mapM hxs x hx
    exact h (hitems i hi) hread
  | _ => cases hxs

variable {room : Nat} {name : String} {ms : List (String × Json)} (hms : ∀ m ∈ ms, m.2.Fits room)

include hms

theorem required {x : α} (hx : required name read ms = some x) : good room x := by
  rw [Json.required] at hx
  split at hx
  · exact h (hms _ (mem_of_field? ‹_›)) hx
  · cases hx

theorem optional {o : Option α} (ho : optional name read ms = some o) : ∀ x ∈ o, good room x := by
  intro x hx
  obtain ⟨j, hj, -, hread⟩ := exists_of_optional ho x hx
  exact h (hms _ hj) hread

theorem list {xs : List α} (hxs : Json.withDefault name [] (array? read) ms = some xs) :
    ∀ x ∈ xs, 0 < room ∧ good (room - 1) x := by
  intro x hx
  obtain ⟨items, hitems, i, hi, hread⟩ := exists_of_list hxs x hx
  obtain ⟨hroom, hfit⟩ := fits_array.1 (hms _ hitems)
  exact ⟨hroom, h (hfit i hi) hread⟩

end Yields

end Arbiter.Json
