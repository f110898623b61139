import Arbiter.Proofs.Json.Reading
import Arbiter.Proofs.Json.Shape

namespace Arbiter

open Json

namespace Content

variable {p : Json → Prop}

theorem exists_of_castFields? {k : RecordKind} {fields : List (String × Json)} :
    {members : List (String × Json)} → castFields? k (ofMembers members) = some fields →
      ∀ f ∈ fields, ∃ m ∈ members, ∃ s, (ofJson m.2).cast? s = some f.2
  | [], h => by
    cases h
    simp
  | (name, x) :: rest, h => by
    simp only [ofMembers, castFields?, Option.bind_eq_bind, Option.bind_eq_some_iff] at h
    obtain ⟨field, -, h⟩ := h
    have hrest : ∀ {fields}, castFields? k (ofMembers rest) = some fields →
        ∀ f ∈ fields, ∃ m ∈ (name, x) :: rest, ∃ s, (ofJson m.2).cast? s = some f.2 := by
      intro fields h f hf
      obtain ⟨m, hm, hread⟩ := exists_of_castFields? h f hf
      exact ⟨m, List.mem_cons_of_mem _ hm, hread⟩
    split at h
    · exact hrest h
    · simp only [Option.bind_eq_some_iff, Option.pure_def, Option.some.injEq] at h
      obtain ⟨y, hy, others, hothers, rfl⟩ := h
      exact List.forall_mem_cons.2 ⟨⟨(name, x), List.mem_cons_self, _, hy⟩, hrest hothers⟩

theorem fits_loneWord? {names : List String} {pairs : List (Content × Content)} {j : Json}
    (h : loneWord? names pairs = some j) (room : Nat) : j.FitsWith p room := by
  unfold loneWord? at h
  split at h
  · split at h
    · obtain ⟨name, -, rfl⟩ := Option.map_eq_some_iff.1 h
      exact fits_string name
    · cases h
  · cases h

theorem fits_json? {i j : Json} {room : Nat} (hi : i.FitsWith p room) (h : (ofJson i).json? = some j) :
    j.FitsWith p room := by
  rw [json?_ofJson] at h
  exact Option.some.inj h ▸ hi

/-- Of scalars only texts and null can be read elsewhere than where any value can. -/
theorem cast?_eq_some {s : Shape} {c : Content} (hc : ∀ items, c ≠ array items)
    (hc' : ∀ pairs, c ≠ object pairs) {j : Json} (h : c.cast? s = some j) : c.json? = some j := by
  cases c with
  | null =>
    simp only [cast?] at h
    split at h
    · exact h
    split at h
    · exact h
    · cases h
  | string x =>
    simp only [cast?] at h
    split at h
    · exact h
    · exact h
    · exact h
    · cases h
  | array items => exact absurd rfl (hc items)
  | object pairs => exact absurd rfl (hc' pairs)
  | _ =>
    simp only [cast?] at h
    split at h
    · exact h
    · cases h

theorem fits_cast? {s : Shape} {i j : Json} {room : Nat} (hi : i.FitsWith p room)
    (h : (ofJson i).cast? s = some j) : j.FitsWith p room := by
  induction i using Json.induct generalizing s j room with
  | null | bool | double | string =>
    exact fits_json? hi (cast?_eq_some (by simp [ofJson]) (by simp [ofJson]) h)
  | integer n =>
    refine fits_json? hi (cast?_eq_some ?_ ?_ h) <;> simp only [ofJson] <;> split <;> simp
  | array items ih =>
    obtain ⟨hroom, hitems⟩ := fits_array.1 hi
    simp only [ofJson, cast?] at h
    split at h
    · exact fits_json? hi h
    · obtain ⟨js, hjs, rfl⟩ := Option.map_eq_some_iff.1 h
      rw [castItems?_eq, ofItems_eq] at hjs
      refine fits_array.2 ⟨hroom, fun j hj => ?_⟩
      obtain ⟨c, hc, hread⟩ := exists_of_mapM hjs j hj
      obtain ⟨i, hi, rfl⟩ := List.mem_map.1 hc
      exact ih i hi (hitems i hi) hread
    · cases h
  | object members ih =>
    obtain ⟨hroom, hmembers⟩ := fits_object.1 hi
    have hfields : ∀ {k fields}, castFields? k (ofMembers members) = some fields →
        ∀ f ∈ fields, f.2.FitsWith p (room - 1) := by
      intro k fields h f hf
      obtain ⟨m, hm, s, hread⟩ := exists_of_castFields? h f hf
      exact ih m hm (hmembers m hm) hread
    simp only [ofJson, cast?] at h
    split at h
    · exact fits_json? hi h
    · exact fits_loneWord? h room
    · obtain ⟨fields, hread, rfl⟩ := Option.map_eq_some_iff.1 h
      exact fits_object.2 ⟨hroom, hfields hread⟩
    · simp only [Option.bind_eq_bind, Option.bind_eq_some_iff, Option.pure_def, Option.some.injEq] at h
      obtain ⟨_, -, fields, hread, rfl⟩ := h
      exact fits_object.2 ⟨hroom, List.forall_mem_cons.2 ⟨fits_string _, hfields hread⟩⟩
    · cases h

end Content

namespace Json

theorem fits_castNode? {p : Json → Prop} {i j : Json} {room : Nat} (hi : i.FitsWith p room)
    (h : castNode? i = some j) : j.FitsWith p room := by
  unfold castNode? at h
  split at h
  · split at h
    · exact Content.fits_cast? hi h
    · cases h
  · cases h

namespace Tree

variable {room : Nat}

theorem fits_json? {t : Tree} (ht : t.IsNumeric) {room : Nat} {j : Json} (h : t.json? room = some j) :
    j.FitsWith IsRead room := by
  induction ht generalizing room j with
  | null =>
    cases h
    exact fits_null
  | bool b =>
    cases h
    exact fits_bool b
  | string x =>
    obtain ⟨s, -, rfl⟩ := Option.map_eq_some_iff.1 h
    exact fits_string s
  | number hv =>
    simp only [json?] at h
    exact fits_of_hasNumeral (hv j h).hasNumeral (hv j h)
  | array _ ih =>
    simp only [json?] at h
    split at h
    · cases h
    · obtain ⟨js, hjs, rfl⟩ := Option.map_eq_some_iff.1 h
      rw [jsonItems?_eq] at hjs
      refine fits_array.2 ⟨by omega, fun j hj => ?_⟩
      obtain ⟨u, hu, hread⟩ := exists_of_mapM hjs j hj
      exact ih u hu hread
  | object _ ih =>
    simp only [json?] at h
    split at h
    · cases h
    · obtain ⟨ms, hms, rfl⟩ := Option.map_eq_some_iff.1 h
      rw [jsonMembers?_eq] at hms
      refine fits_object.2 ⟨by omega, fun m hm => ?_⟩
      obtain ⟨u, hu, hread⟩ := exists_of_mapM hms m hm
      exact ih u hu (member?_eq_some.1 hread).2

theorem exists_of_castFields? {k : RecordKind} {fields : List (String × Json)} :
    {ts : List (Option String × Tree)} → castFields? room k ts = some fields →
      ∀ f ∈ fields, ∃ t ∈ ts, ∃ s, cast? room s t.2 = some f.2
  | [], h => by
    cases h
    simp
  | (key, t) :: ts, h => by
    simp only [castFields?, Option.bind_eq_bind, Option.bind_eq_some_iff] at h
    obtain ⟨name, -, h⟩ := h
    have hrest : ∀ {fields}, castFields? room k ts = some fields →
        ∀ f ∈ fields, ∃ u ∈ (key, t) :: ts, ∃ s, cast? room s u.2 = some f.2 := by
      intro fields h f hf
      obtain ⟨u, hu, hread⟩ := exists_of_castFields? h f hf
      exact ⟨u, List.mem_cons_of_mem _ hu, hread⟩
    split at h
    · exact hrest h
    · simp only [Option.bind_eq_some_iff, Option.pure_def, Option.some.injEq] at h
      obtain ⟨y, hy, others, hothers, rfl⟩ := h
      exact List.forall_mem_cons.2 ⟨⟨(key, t), List.mem_cons_self, _, hy⟩, hrest hothers⟩

/-- Of scalars only texts and null can be read elsewhere than where any value can. -/
theorem cast?_eq_some {s : Shape} {t : Tree} (ht : ∀ items, t ≠ array items)
    (ht' : ∀ members, t ≠ object members) {j : Json} (h : t.cast? room s = some j) :
    t.json? room = some j := by
  cases t with
  | null =>
    simp only [cast?] at h
    split at h
    · exact h
    split at h
    · exact h
    · cases h
  | string x =>
    simp only [cast?] at h
    split at h
    · exact h
    · exact h
    · exact h
    · cases h
  | array items => exact absurd rfl (ht items)
  | object members => exact absurd rfl (ht' members)
  | _ =>
    simp only [cast?] at h
    split at h
    · exact h
    · cases h

theorem fits_cast? {t : Tree} (ht : t.IsNumeric) {room : Nat} {s : Shape} {j : Json}
    (h : t.cast? room s = some j) : j.FitsWith IsRead room := by
  induction ht generalizing room s j with
  | null => exact fits_json? .null (cast?_eq_some (by simp) (by simp) h)
  | bool b => exact fits_json? (.bool b) (cast?_eq_some (by simp) (by simp) h)
  | string x => exact fits_json? (.string x) (cast?_eq_some (by simp) (by simp) h)
  | number hv => exact fits_json? (.number hv) (cast?_eq_some (by simp) (by simp) h)
  | array hitems ih =>
    simp only [cast?] at h
    split at h
    · cases h
    split at h
    · exact fits_json? (.array hitems) h
    · obtain ⟨js, hjs, rfl⟩ := Option.map_eq_some_iff.1 h
      rw [castItems?_eq] at hjs
      refine fits_array.2 ⟨by omega, fun j hj => ?_⟩
      obtain ⟨u, hu, hread⟩ := exists_of_mapM hjs j hj
      exact ih u hu hread
    · cases h
  | object hmembers ih =>
    simp only [cast?] at h
    split at h
    · cases h
    split at h
    · exact fits_json? (.object hmembers) h
    · unfold loneWord? at h
      split at h
      · obtain ⟨name, -, rfl⟩ := Option.map_eq_some_iff.1 h
        exact fits_string name
      · cases h
    · obtain ⟨fields, hfields, rfl⟩ := Option.map_eq_some_iff.1 h
      refine fits_object.2 ⟨by omega, fun f hf => ?_⟩
      obtain ⟨u, hu, _, hread⟩ := exists_of_castFields? hfields f hf
      exact ih u hu hread
    · obtain ⟨i, hi, h⟩ := Option.bind_eq_some_iff.1 h
      exact fits_castNode? (fits_json? (.object hmembers) hi) h
    · cases h

end Tree

/-- Whatever is read from a text fits where it was read, and its numbers are read from numerals. -/
theorem fits_read? {s : Shape} {text : String} {j : Json} (h : read? s text = some j) :
    j.FitsWith IsRead Tree.depthLimit := by
  obtain ⟨t, ht, h⟩ := Option.bind_eq_some_iff.1 h
  exact Tree.fits_cast? (Tree.isNumeric_ofText? ht) h

end Json

end Arbiter
