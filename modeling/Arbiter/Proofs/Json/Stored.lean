import Arbiter.Proofs.Json.Fits
import Mathlib.Data.String.Basic

namespace Arbiter.Json

/-- Whether the names of members are all different and in order. -/
def Ordered (members : List (String × Json)) : Prop := members.Pairwise (·.1 < ·.1)

theorem mem_insertMember {k : String} {v : Json} {m : String × Json} {members : List (String × Json)}
    (h : m ∈ insertMember k v members) : m = (k, v) ∨ m ∈ members := by
  induction members with
  | nil => simpa [insertMember] using h
  | cons n ns ih =>
    rw [insertMember] at h
    split at h
    · simp only [List.mem_cons] at h ⊢
      exact h.imp_right .inr
    split at h
    · simpa using h
    · simp only [List.mem_cons] at h ⊢
      obtain rfl | h := h
      · exact .inr (.inl rfl)
      · exact (ih h).imp_right .inr

theorem ordered_insertMember {members : List (String × Json)} (h : Ordered members) (k : String) (v : Json) :
    Ordered (insertMember k v members) := by
  induction members with
  | nil => simp [insertMember, Ordered]
  | cons n ns ih =>
    obtain ⟨hn, hns⟩ := List.pairwise_cons.1 h
    rw [insertMember]
    split
    · rename_i hk
      exact List.pairwise_cons.2 ⟨by simpa [hk] using hn, hns⟩
    split
    · rename_i hk
      refine List.pairwise_cons.2 ⟨fun m hm => ?_, h⟩
      obtain rfl | hm := List.mem_cons.1 hm
      · exact hk
      · exact hk.trans (hn m hm)
    · rename_i hne hlt
      refine List.pairwise_cons.2 ⟨fun m hm => ?_, ih hns⟩
      obtain rfl | hm := mem_insertMember hm
      · exact lt_of_le_of_ne (not_lt.1 hlt) (Ne.symm hne)
      · exact hn m hm

/-- A name past all others is put at the end. -/
theorem insertMember_last {k : String} {members : List (String × Json)} (h : ∀ m ∈ members, m.1 < k)
    (v : Json) : insertMember k v members = members ++ [(k, v)] := by
  induction members with
  | nil => rfl
  | cons n ns ih =>
    obtain ⟨hn, hns⟩ := List.forall_mem_cons.1 h
    rw [insertMember, if_neg hn.ne', if_neg hn.not_gt, ih hns, List.cons_append]

theorem ordered_freeMembers {before : List (String × Json)} (h : Ordered before)
    (members : List (String × Json)) : Ordered (freeMembers before members) := by
  induction members generalizing before with
  | nil => exact h
  | cons m ms ih => exact ih (ordered_insertMember h _ _)

theorem forall_freeMembers {p : Json → Prop} {before members : List (String × Json)}
    (hbefore : ∀ m ∈ before, p m.2) (h : ∀ m ∈ members, p m.2.free) :
    ∀ m ∈ freeMembers before members, p m.2 := by
  induction members generalizing before with
  | nil => exact hbefore
  | cons m ms ih =>
    obtain ⟨hm, hms⟩ := List.forall_mem_cons.1 h
    refine ih (fun n hn => ?_) hms
    obtain rfl | hn := mem_insertMember hn
    · exact hm
    · exact hbefore n hn

theorem freeMembers_of_ordered {before members : List (String × Json)} (h : Ordered (before ++ members))
    (hfree : ∀ m ∈ members, m.2.free = m.2) : freeMembers before members = before ++ members := by
  induction members generalizing before with
  | nil => simp [freeMembers]
  | cons m ms ih =>
    obtain ⟨hm, hms⟩ := List.forall_mem_cons.1 hfree
    have hlast : ∀ n ∈ before, n.1 < m.1 := fun n hn =>
      (List.pairwise_append.1 h).2.2 n hn m List.mem_cons_self
    rw [List.append_cons] at h ⊢
    rw [freeMembers, hm, insertMember_last hlast, ih h hms]

theorem freeItems_eq (items : List Json) : freeItems items = items.map free := by
  induction items with
  | nil => rfl
  | cons x xs ih => rw [freeItems, ih, List.map_cons]

theorem free_free (v : Json) : v.free.free = v.free := by
  induction v using Json.induct with
  | null | bool | integer | string => rfl
  | double x =>
    rw [free]
    split <;> simp_all [free]
  | array items ih =>
    rw [free, free, freeItems_eq, freeItems_eq, List.map_map]
    exact congrArg array (List.map_congr_left ih)
  | object members ih =>
    have hfree : ∀ m ∈ freeMembers [] members, m.2.free = m.2 :=
      forall_freeMembers (p := fun v => v.free = v) (by simp) ih
    have hordered : Ordered ([] ++ freeMembers [] members) := ordered_freeMembers .nil members
    rw [free, free, freeMembers_of_ordered hordered hfree, List.nil_append]

theorem FitsWith.free {p : Json → Prop} {room : Nat} {v : Json} (h : v.FitsWith p room) :
    v.free.FitsWith p room := by
  induction v using Json.induct generalizing room with
  | null | bool | integer | string => exact h
  | double x =>
    rw [Json.free]
    split
    · exact h
    · exact fits_null
  | array items ih =>
    obtain ⟨hroom, h⟩ := fits_array.1 h
    rw [Json.free, freeItems_eq]
    exact fits_array.2 ⟨hroom, List.forall_mem_map.2 fun x hx => ih x hx (h x hx)⟩
  | object members ih =>
    obtain ⟨hroom, h⟩ := fits_object.1 h
    exact fits_object.2 ⟨hroom, forall_freeMembers (by simp) fun m hm => ih m hm (h m hm)⟩

end Arbiter.Json
