import Arbiter.Context

namespace Arbiter

variable [DecidableEq α]

theorem mem_addAllNew {x : α} {xs ys : List α} : x ∈ addAllNew xs ys ↔ x ∈ xs ∨ x ∈ ys := by
  induction ys generalizing xs with
  | nil => simp [addAllNew]
  | cons y ys ih =>
    have hy : x ∈ addNew xs y ↔ x ∈ xs ∨ x = y := by
      unfold addNew
      split
      · exact ⟨.inl, fun h => h.elim id fun h => h ▸ ‹_›⟩
      · simp
    rw [show addAllNew xs (y :: ys) = addAllNew (addNew xs y) ys from rfl, ih, hy, List.mem_cons, or_assoc]

theorem addAllNew_append (xs ys zs : List α) :
    addAllNew xs (ys ++ zs) = addAllNew (addAllNew xs ys) zs :=
  List.foldl_append

/-- To add what a list does not hold yet is to append and keep first occurrences. -/
theorem addAllNew_eraseDups (xs ys : List α) :
    addAllNew xs.eraseDups ys = (xs ++ ys).eraseDups := by
  induction ys generalizing xs with
  | nil => simp [addAllNew]
  | cons y ys ih =>
    have hy : addNew xs.eraseDups y = (xs ++ [y]).eraseDups := by
      by_cases h : y ∈ xs <;>
        simp [addNew, List.eraseDups_append, List.removeAll, List.eraseDups_cons, h]
    have hstep := ih (xs ++ [y])
    rw [List.append_assoc, List.singleton_append] at hstep
    rw [addAllNew, List.foldl_cons, hy]
    exact hstep

theorem eraseDups_eq_addAllNew (xs : List α) : xs.eraseDups = addAllNew [] xs :=
  (addAllNew_eraseDups [] xs).symm

theorem nodup_addAllNew {xs : List α} (h : xs.Nodup) (ys : List α) : (addAllNew xs ys).Nodup := by
  induction ys generalizing xs with
  | nil => exact h
  | cons y ys ih =>
    apply ih
    unfold addNew
    split
    · exact h
    · rename_i hy
      rw [List.nodup_append]
      exact ⟨h, by simp, fun a ha b hb hab => hy (List.mem_singleton.mp hb ▸ hab ▸ ha)⟩

theorem eraseDups_of_nodup {xs : List α} (h : xs.Nodup) : xs.eraseDups = xs := by
  induction xs with
  | nil => rfl
  | cons x xs ih =>
    obtain ⟨hx, hxs⟩ := List.nodup_cons.mp h
    have hkept : xs.filter (fun y => !y == x) = xs := by
      rw [List.filter_eq_self]
      intro y hy
      have hne : y ≠ x := fun he => hx (he ▸ hy)
      simpa using hne
    rw [List.eraseDups_cons, hkept, ih hxs]

theorem nodup_eraseDups (xs : List α) : xs.eraseDups.Nodup :=
  eraseDups_eq_addAllNew xs ▸ nodup_addAllNew List.nodup_nil xs

theorem filter_addAllNew (p : α → Bool) (xs ys : List α) :
    (addAllNew xs ys).filter p = addAllNew (xs.filter p) (ys.filter p) := by
  induction ys generalizing xs with
  | nil => rfl
  | cons y ys ih =>
    have hy : (addNew xs y).filter p = if p y then addNew (xs.filter p) y else xs.filter p := by
      by_cases h : y ∈ xs <;> cases hp : p y <;> simp [addNew, h, hp]
    rw [show addAllNew xs (y :: ys) = addAllNew (addNew xs y) ys from rfl, ih, hy, List.filter_cons]
    split <;> rfl

theorem filter_eraseDups (p : α → Bool) (xs : List α) :
    xs.eraseDups.filter p = (xs.filter p).eraseDups := by
  rw [eraseDups_eq_addAllNew, eraseDups_eq_addAllNew, filter_addAllNew, List.filter_nil]

/-- What was added once already is no news when it comes again. -/
theorem addAllNew_addAllNew (xs ys zs : List α) :
    addAllNew xs (addAllNew ys zs) = addAllNew (addAllNew xs ys) zs := by
  induction zs generalizing ys with
  | nil => rfl
  | cons z zs ih =>
    have hz : addAllNew xs (addNew ys z) = addNew (addAllNew xs ys) z := by
      by_cases h : z ∈ ys
      · simp [addNew, h, mem_addAllNew]
      · rw [addNew, if_neg h, addAllNew_append]
        rfl
    calc addAllNew xs (addAllNew (addNew ys z) zs)
        = addAllNew (addAllNew xs (addNew ys z)) zs := ih (addNew ys z)
      _ = addAllNew (addNew (addAllNew xs ys) z) zs := by rw [hz]

theorem eraseDups_flatMap_eraseDups (xs : List β) (k : β → List α) :
    (xs.flatMap fun x => (k x).eraseDups).eraseDups = (xs.flatMap k).eraseDups := by
  rw [eraseDups_eq_addAllNew, eraseDups_eq_addAllNew]
  generalize ([] : List α) = seen
  induction xs generalizing seen with
  | nil => rfl
  | cons x xs ih =>
    rw [List.flatMap_cons, List.flatMap_cons, addAllNew_append, addAllNew_append, eraseDups_eq_addAllNew,
      addAllNew_addAllNew, ih]
    rfl

end Arbiter
