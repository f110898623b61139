import Arbiter.Format.Record
import Arbiter.Proofs.Json.Shape
import Mathlib.Data.List.Forall2
import Mathlib.Data.List.Nodup

namespace Arbiter

theorem RecordKind.distinct_fields (k : RecordKind) : (k.fields.map (·.1)).Nodup := by
  cases k <;> decide

namespace Json

/-- The members of a record: the fields that are there. -/
def present (fields : List (String × Option Json)) : List (String × Json) :=
  fields.filterMap fun f => f.2.map (f.1, ·)

theorem record_eq (fields : List (String × Option Json)) : record fields = object (present fields) := rfl

@[simp] theorem members?_record (fields : List (String × Option Json)) :
    (record fields).members? = some (present fields) := rfl

theorem mem_present {fields : List (String × Option Json)} {m : String × Json} :
    m ∈ present fields ↔ (m.1, some m.2) ∈ fields := by
  simp only [present, List.mem_filterMap, Option.map_eq_some_iff]
  constructor
  · rintro ⟨⟨name, o⟩, hf, j, rfl, rfl⟩
    exact hf
  · exact fun h => ⟨_, h, m.2, rfl, rfl⟩

/-- Reads a field that may be there. What is written as null counts as absent. -/
def readUnlessNull (read : Json → Option α) : Option Json → Option (Option α)
  | none | some null => some none
  | some j => (read j).map some

section Reading

variable {fields : List (String × Option Json)} (distinct : (fields.map (·.1)).Nodup) (name : String)
  (read : Json → Option α)

include distinct

theorem filter_present :
    (present fields).filter (·.1 = name) =
      (((fields.find? (·.1 = name)).bind (·.2)).map (name, ·)).toList := by
  induction fields with
  | nil => rfl
  | cons f fs ih =>
    obtain ⟨first, o⟩ := f
    obtain ⟨hfirst, hfs⟩ := List.nodup_cons.1 distinct
    have hpresent : present ((first, o) :: fs) = (o.map (first, ·)).toList ++ present fs := by
      cases o <;> rfl
    rw [hpresent, List.filter_append]
    by_cases hname : first = name
    · subst hname
      have hrest : (present fs).filter (·.1 = first) = [] := by
        rw [List.filter_eq_nil_iff]
        intro m hm h
        exact hfirst (List.mem_map.2 ⟨_, mem_present.1 hm, of_decide_eq_true h⟩)
      cases o <;> simp [hrest]
    · cases o <;> simp [hname, ih hfs]

theorem find?_present :
    (present fields).find? (·.1 = name) = ((fields.find? (·.1 = name)).bind (·.2)).map (name, ·) := by
  rw [← List.head?_filter, filter_present distinct, Option.head?_toList]

theorem field?_present : field? name (present fields) = some ((fields.find? (·.1 = name)).bind (·.2)) := by
  rw [field?, filter_present distinct]
  cases (fields.find? (·.1 = name)).bind (·.2) <;> rfl

@[simp] theorem required_present :
    required name read (present fields) = ((fields.find? (·.1 = name)).bind (·.2)).bind read := by
  rw [required, field?_present distinct]
  cases (fields.find? (·.1 = name)).bind (·.2) <;> rfl

@[simp] theorem withDefault_present (default : α) :
    withDefault name default read (present fields) =
      (((fields.find? (·.1 = name)).bind (·.2)).map read).getD (some default) := by
  rw [withDefault, field?_present distinct]
  cases (fields.find? (·.1 = name)).bind (·.2) <;> rfl

@[simp] theorem optional_present :
    optional name read (present fields) =
      readUnlessNull read ((fields.find? (·.1 = name)).bind (·.2)) := by
  rw [optional, field?_present distinct]
  cases (fields.find? (·.1 = name)).bind (·.2) with
  | none => rfl
  | some j => cases j <;> rfl

end Reading

section Values

variable {read : Json → Option α} {toJson : α → Json}

theorem readUnlessNull_some {j : Json} (h : j ≠ null) : readUnlessNull read (some j) = (read j).map some := by
  cases j <;> first | rfl | exact absurd rfl h

theorem readUnlessNull_map {o : Option α} (hnull : ∀ x ∈ o, toJson x ≠ null)
    (hread : ∀ x ∈ o, read (toJson x) = some x) : readUnlessNull read (o.map toJson) = some o := by
  cases o with
  | none => rfl
  | some x => rw [Option.map_some, readUnlessNull_some (hnull x rfl), hread x rfl, Option.map_some]

theorem readUnlessNull_orNull {o : Option α} (hnull : ∀ x ∈ o, toJson x ≠ null)
    (hread : ∀ x ∈ o, read (toJson x) = some x) :
    readUnlessNull read (some (orNull toJson o)) = some o := by
  cases o with
  | none => rfl
  | some x => exact readUnlessNull_map hnull hread

/-- A list that is left out when it is empty is empty when it is left out. -/
theorem withDefault_unlessEmpty {xs : List α} (h : ∀ x ∈ xs, read (toJson x) = some x) :
    ((unlessEmpty toJson xs).map (array? read)).getD (some []) = some xs := by
  cases xs with
  | nil => rfl
  | cons x xs => exact mapM_map h

end Values

/-- Whether a field is the one that a record expects in its place, in its shape if it is there. -/
structure FieldConforms (written : String × Option Json) (expected : String × Shape) : Prop where
  name : written.1 = expected.1
  conforms : ∀ j ∈ written.2, Conforms expected.2 j

namespace FieldConforms

variable {name : String} {s : Shape}

theorem there {j : Json} (h : Conforms s j) : FieldConforms (name, some j) (name, s) :=
  ⟨rfl, by simpa using h⟩

theorem map {toJson : α → Json} {o : Option α} (h : ∀ x ∈ o, Conforms s (toJson x)) :
    FieldConforms (name, o.map toJson) (name, .orNull s) := by
  refine ⟨rfl, fun j hj => ?_⟩
  obtain ⟨x, hx, rfl⟩ := Option.map_eq_some_iff.1 hj
  exact .orNull (h x hx)

theorem orNull {toJson : α → Json} {o : Option α} (h : ∀ x ∈ o, Conforms s (toJson x)) :
    FieldConforms (name, some (Json.orNull toJson o)) (name, .orNull s) := by
  cases o with
  | none => exact there (.null s)
  | some x => exact there (.orNull (h x rfl))

theorem unlessEmpty {toJson : α → Json} {xs : List α} (h : ∀ x ∈ xs, Conforms s (toJson x)) :
    FieldConforms (name, Json.unlessEmpty toJson xs) (name, .list s) := by
  refine ⟨rfl, fun j hj => ?_⟩
  rw [Json.unlessEmpty] at hj
  split at hj
  · cases hj
  · cases hj
    exact .list (List.forall_mem_map.2 h)

end FieldConforms

theorem field?_fields {k : RecordKind} {f : String × Shape} (h : f ∈ k.fields) :
    k.field? f.1 = some f.2 := by
  have hfound : (k.fields.find? (·.1 = f.1)).isSome := List.find?_isSome.2 ⟨f, h, by simp⟩
  obtain ⟨g, hg⟩ := Option.isSome_iff_exists.1 hfound
  have hname : g.1 = f.1 := by simpa using List.find?_some hg
  have hgf : g = f := List.inj_on_of_nodup_map k.distinct_fields (List.mem_of_find?_eq_some hg) h hname
  rw [RecordKind.field?, hg, hgf]
  rfl

/-- What is written stands under one of the names that are expected. -/
theorem exists_expected {fields : List (String × Option Json)} {expected : List (String × Shape)}
    (h : List.Forall₂ FieldConforms fields expected) {m : String × Json} (hm : m ∈ present fields) :
    ∃ f ∈ expected, m.1 = f.1 ∧ Conforms f.2 m.2 := by
  rw [mem_present] at hm
  induction h with
  | nil => cases hm
  | @cons _ f _ _ hfirst _ ih =>
    cases hm with
    | head => exact ⟨f, .head _, hfirst.name, hfirst.conforms m.2 rfl⟩
    | tail _ hm =>
      obtain ⟨g, hg, hfound⟩ := ih hm
      exact ⟨g, .tail _ hg, hfound⟩

section Writing

variable {k : RecordKind} {fields : List (String × Option Json)}
  (h : List.Forall₂ FieldConforms fields k.fields)

include h

theorem exists_field {m : String × Json} (hm : m ∈ present fields) :
    ∃ s, k.field? m.1 = some s ∧ Conforms s m.2 := by
  obtain ⟨f, hf, hname, hj⟩ := exists_expected h hm
  exact ⟨f.2, hname ▸ field?_fields hf, hj⟩

theorem known_present : ∀ m ∈ present fields, (k.field? m.1).isSome := by
  intro m hm
  obtain ⟨s, hs, -⟩ := exists_field h hm
  exact Option.isSome_of_eq_some hs

theorem conforms_present : ∀ m ∈ present fields, ∀ s, k.field? m.1 = some s → Conforms s m.2 := by
  intro m hm s hs
  obtain ⟨t, ht, hj⟩ := exists_field h hm
  rw [ht] at hs
  exact Option.some.inj hs ▸ hj

theorem conforms_record : Conforms (.record k) (record fields) :=
  .record (known_present h) (conforms_present h)

theorem conforms_node {name : String} (hk : (name, k) ∈ RecordKind.nodes) :
    Conforms .node (record (("kind", some (string name)) :: fields)) :=
  .node hk (known_present h) (conforms_present h)

end Writing

end Json

end Arbiter
