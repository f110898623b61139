import Arbiter.Cache

namespace Arbiter

theorem Category.name_injective {c c' : Category} (h : c.name = c'.name) : c = c' := by
  have ho := congrArg ofName? h
  simpa using ho

/-- No two attributes are written alike. An attribute without issuer leaves the field out. -/
theorem Attribute.toJson_injective {a b : Attribute} (h : a.toJson = b.toJson) : a = b := by
  obtain ⟨c, i, d, s, vs⟩ := a
  obtain ⟨c', i', d', s', vs'⟩ := b
  have hname (hc : c.name = c'.name) : c = c' := Category.name_injective hc
  cases s <;> cases s' <;> simp [toJson, Json.record] at h ⊢
  · exact ⟨hname h.1, h.2⟩
  · exact ⟨hname h.1, h.2⟩

/-- Keys are equal for requests of the same attributes and stores of the same generation only. -/
theorem Request.cacheKey_inj {r r' : Request} {g g' : Nat} :
    r.cacheKey g = r'.cacheKey g' ↔ r.attributes = r'.attributes ∧ g = g' := by
  constructor
  · intro h
    obtain ⟨hj, hg⟩ := CacheKey.mk.inj h
    have hm := Json.array.inj hj
    exact ⟨(List.map_inj_right fun _ _ => Attribute.toJson_injective).mp hm, hg⟩
  · rintro ⟨ha, rfl⟩
    rw [cacheKey, cacheKey, ha]

namespace Cache

variable (c : Cache) (now : Nat) (r : Request) (g : Nat)

theorem mem_others {x : CacheEntry} (h : x ∈ c.others r g) : x ∈ c.entries :=
  (List.mem_filter.mp h).1

theorem mem_get {x : CacheEntry} (h : x ∈ (c.get now r g).2.entries) : x ∈ c.entries := by
  unfold get at h
  cases hf : c.entries.find? (·.isFor r g) with
  | none =>
    rw [hf] at h
    exact h
  | some e =>
    simp only [hf] at h
    split at h
    · rcases List.mem_cons.mp h with rfl | h
      · exact List.mem_of_find?_eq_some hf
      · exact c.mem_others r g h
    · exact c.mem_others r g h

/-- A response found is that of an entry under the key of the request, with the request's own id. -/
theorem of_get {response : Response} (h : (c.get now r g).1 = some response) :
    ∃ x ∈ c.entries, x.key = r.cacheKey g ∧ response = { x.response with requestId := r.id } := by
  unfold get at h
  cases hf : c.entries.find? (·.isFor r g) with
  | none => simp [hf] at h
  | some x =>
    simp only [hf] at h
    split at h
    · have hkey : x.isFor r g = true := List.find?_some hf
      refine ⟨x, List.mem_of_find?_eq_some hf, by simpa [CacheEntry.isFor] using hkey, ?_⟩
      exact (Option.some.inj h).symm
    · simp at h

theorem mem_put {response : Response} {x : CacheEntry} (h : x ∈ (c.put now r g response).entries) :
    x = ⟨r.cacheKey g, response, now + c.ttl⟩ ∨ x ∈ c.entries := by
  have hcons : x ∈ (⟨r.cacheKey g, response, now + c.ttl⟩ : CacheEntry) :: c.others r g :=
    List.mem_of_mem_take h
  rcases List.mem_cons.mp hcons with hx | hx
  · exact .inl hx
  · exact .inr (c.mem_others r g hx)

/-- A lookup counts as a hit or as a miss, the one that comes upon an expired entry too. -/
theorem get_counts :
    (c.get now r g).2.hits = c.hits + (c.get now r g).1.isSome.toNat ∧
      (c.get now r g).2.misses = c.misses + (c.get now r g).1.isNone.toNat := by
  unfold get
  cases c.entries.find? (·.isFor r g) with
  | none => exact ⟨rfl, rfl⟩
  | some x =>
    dsimp only
    split
    · exact ⟨rfl, rfl⟩
    · exact ⟨rfl, rfl⟩

theorem get_capacity : (c.get now r g).2.capacity = c.capacity := by
  unfold get
  cases c.entries.find? (·.isFor r g) with
  | none => rfl
  | some x =>
    dsimp only
    split <;> rfl

theorem length_others_lt {x : CacheEntry} (h : c.entries.find? (·.isFor r g) = some x) :
    (c.others r g).length < c.entries.length := by
  apply List.length_filter_lt_length_iff_exists.mpr
  have hx : x.isFor r g = true := List.find?_some h
  exact ⟨x, List.mem_of_find?_eq_some h, by simp [hx]⟩

theorem size_get_le : (c.get now r g).2.size ≤ c.size := by
  unfold get
  cases h : c.entries.find? (·.isFor r g) with
  | none => exact Nat.le_refl _
  | some x =>
    have hlt := c.length_others_lt r g h
    dsimp only
    split
    · exact hlt
    · exact Nat.le_of_lt hlt

theorem size_put_le (response : Response) : (c.put now r g response).size ≤ c.capacity :=
  List.length_take_le ..

end Cache

end Arbiter
