import Arbiter.Format.Text
import Arbiter.Proofs.Cache
import Arbiter.Proofs.Json.Apart
import Arbiter.Proofs.Json.Yield

namespace Arbiter

/-- A whole number in so many bytes, the lowest one first. -/
def littleEndian : Nat → Nat → List UInt8
  | 0, _ => []
  | count + 1, n => UInt8.ofNat n :: littleEndian count (n / 256)

theorem length_littleEndian (count n : Nat) : (littleEndian count n).length = count := by
  induction count generalizing n with
  | zero => rfl
  | succ count ih => rw [littleEndian, List.length_cons, ih]

theorem littleEndian_inj {count n m : Nat} (hn : n < 256 ^ count) (hm : m < 256 ^ count)
    (h : littleEndian count n = littleEndian count m) : n = m := by
  induction count generalizing n m with
  | zero => omega
  | succ count ih =>
    obtain ⟨hlow, hrest⟩ := List.cons.inj h
    have hdiv {k : Nat} (hk : k < 256 ^ (count + 1)) : k / 256 < 256 ^ count := by
      apply Nat.div_lt_of_lt_mul
      rwa [← Nat.pow_succ']
    have hhigh := ih (hdiv hn) (hdiv hm) hrest
    have hbyte : n % 256 = m % 256 := by simpa using congrArg UInt8.toNat hlow
    omega

namespace CacheKey

/-- The attributes as JSON text, and behind them the generation in eight bytes. -/
def bytes (k : CacheKey) : List UInt8 :=
  k.attributes.compact.toUTF8.data.toList ++ littleEndian 8 k.generation

theorem bytes_inj {k k' : CacheKey} (hk : k.attributes.Genuine) (hk' : k'.attributes.Genuine)
    (hg : k.generation < 2 ^ 64) (hg' : k'.generation < 2 ^ 64) (h : k.bytes = k'.bytes) : k = k' := by
  have hlength : (littleEndian 8 k.generation).length = (littleEndian 8 k'.generation).length := by
    rw [length_littleEndian, length_littleEndian]
  obtain ⟨htext, hgeneration⟩ := List.append_inj' h hlength
  have hattributes : k.attributes = k'.attributes := by
    apply Json.compact_inj hk hk'
    exact String.toByteArray_inj.mp (ByteArray.ext (Array.toList_inj.mp htext))
  obtain ⟨attributes, generation⟩ := k
  obtain ⟨attributes', generation'⟩ := k'
  exact congrArg₂ mk hattributes (littleEndian_inj (by simpa using hg) (by simpa using hg') hgeneration)

end CacheKey

/-- Whether the doubles among the values are numbers of the format. -/
def Request.Genuine (r : Request) : Prop := ∀ a ∈ r.attributes, ∀ v ∈ a.values, v.Genuine

theorem Attribute.genuine_of_ofJson? {j : Json} (hj : j.Genuine) {a : Attribute} (h : ofJson? j = some a) :
    ∀ v ∈ a.values, v.Genuine := by
  simp only [ofJson?, Option.bind_eq_bind, Option.bind_eq_some_iff, Json.members?_eq_some, Option.pure_def,
    Option.some.injEq] at h
  obtain ⟨ms, rfl, category, -, id, -, type, -, issuer, -, values, hvalues, rfl⟩ := h
  intro v hv
  obtain ⟨items, hitems, w, hw, hfree⟩ := Json.exists_of_list hvalues v hv
  have hitem : w.Genuine := Json.genuine_array.mp (Json.genuine_object.mp hj _ hitems) w hw
  exact Option.some.inj hfree ▸ hitem.free

/-- All requests are genuine that are read from JSON texts. -/
theorem Request.genuine_of_ofJsonText {text : String} {r : Request} (h : ofJsonText text = .ok r) :
    r.Genuine := by
  unfold ofJsonText readJson at h
  split at h
  · rename_i hread
    cases h
    obtain ⟨j, hj, hread⟩ := Option.bind_eq_some_iff.mp hread
    have hgenuine := Json.genuine_of_read? hj
    simp only [ofJson?, Option.bind_eq_bind, Option.bind_eq_some_iff, Json.members?_eq_some, Option.pure_def,
      Option.some.injEq] at hread
    obtain ⟨ms, rfl, id, -, attributes, hattributes, rfl⟩ := hread
    intro a ha
    obtain ⟨items, hitems, i, hi, hread⟩ := Json.exists_of_list hattributes a ha
    have hitem : i.Genuine := Json.genuine_array.mp (Json.genuine_object.mp hgenuine _ hitems) i hi
    exact Attribute.genuine_of_ofJson? hitem hread
  · cases h

theorem Attribute.genuine_toJson {a : Attribute} (h : ∀ v ∈ a.values, v.Genuine) : a.toJson.Genuine := by
  have htext (s : String) : (Json.string s).Genuine := nofun
  have hvalues : (Json.array a.values).Genuine := Json.genuine_array.mpr h
  unfold toJson Json.record
  rw [Json.genuine_object]
  cases a.issuer <;> simp [htext, hvalues]

/-- The bytes of two keys are equal only for the same attributes and the same generation. -/
theorem Request.bytes_inj {r r' : Request} {g g' : Nat} (hr : r.Genuine) (hr' : r'.Genuine) (hg : g < 2 ^ 64)
    (hg' : g' < 2 ^ 64) :
    (r.cacheKey g).bytes = (r'.cacheKey g').bytes ↔ r.attributes = r'.attributes ∧ g = g' := by
  have hgenuine {r : Request} (hr : r.Genuine) : (r.cacheKey g).attributes.Genuine := by
    refine Json.genuine_array.mpr (List.forall_mem_map.mpr fun a ha => ?_)
    exact Attribute.genuine_toJson (hr a ha)
  rw [← cacheKey_inj]
  exact ⟨CacheKey.bytes_inj (hgenuine hr) (hgenuine hr') hg hg', congrArg _⟩

end Arbiter
