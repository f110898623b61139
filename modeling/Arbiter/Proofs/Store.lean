import Arbiter.Store

namespace Arbiter

namespace Document

/-- A document is valid if each of its nodes may be stored and no two share an id. -/
theorem invalidAmong?_eq_none_iff {seen : List String} {ns : List Node} :
    invalidAmong? seen ns = none ↔
      (∀ n ∈ ns, n.invalidAtTop? = none ∧ n.id ∉ seen) ∧ (ns.map (·.id)).Nodup := by
  induction ns generalizing seen with
  | nil => simp [invalidAmong?]
  | cons n ns ih =>
    by_cases hseen : n.id ∈ seen
    · simp [invalidAmong?, hseen]
    · simp only [invalidAmong?, hseen, if_false, Option.or_eq_none_iff, ih, List.mem_cons,
        List.map_cons, List.nodup_cons, List.mem_map]
      grind

theorem invalid?_eq_none_iff {d : Document} :
    d.invalid? = none ↔ (∀ n ∈ d.policies, n.invalidAtTop? = none) ∧ (d.policies.map (·.id)).Nodup := by
  simp [invalid?, invalidAmong?_eq_none_iff]

end Document

namespace Store

variable {s s' : Store} {n : Node} {ns : List Node}

theorem insert_eq_ok_iff :
    s.insert n = .ok s' ↔ n.invalidAtTop? = none ∧ ⟨put n s.nodes, s.generation + 1⟩ = s' := by
  unfold insert
  cases n.invalidAtTop? <;> simp

theorem insert_generation (h : s.insert n = .ok s') : s'.generation = s.generation + 1 := by
  obtain ⟨-, rfl⟩ := insert_eq_ok_iff.mp h
  rfl

theorem mem_candidates : n ∈ s.candidates ↔ n ∈ s.nodes ∧ n.isEnabled := by
  simp [candidates]

theorem priority_trans (a b c : Node) (hab : decide (b.priority ≤ a.priority) = true)
    (hbc : decide (c.priority ≤ b.priority) = true) : decide (c.priority ≤ a.priority) = true := by
  simp only [decide_eq_true_eq] at *
  exact Int32.le_trans hbc hab

theorem priority_total (a b : Node) :
    (decide (b.priority ≤ a.priority) || decide (a.priority ≤ b.priority)) = true := by
  simpa using Int32.le_total b.priority a.priority

theorem candidates_perm (s : Store) : s.candidates.Perm (s.nodes.filter (·.isEnabled)) :=
  List.mergeSort_perm ..

theorem candidates_sorted (s : Store) :
    s.candidates.Pairwise fun a b => b.priority ≤ a.priority := by
  have hsorted := List.pairwise_mergeSort priority_trans priority_total
    (s.nodes.filter (·.isEnabled))
  exact hsorted.imp fun h => by simpa using h

/-- Enabled nodes of one priority stand in the order of the store. -/
theorem candidates_stable (s : Store) (p : Int32) :
    s.candidates.filter (·.priority = p) =
      (s.nodes.filter (·.isEnabled)).filter (·.priority = p) := by
  have hequal : ((s.nodes.filter (·.isEnabled)).filter (·.priority = p)).Pairwise
      fun a b => decide (b.priority ≤ a.priority) = true := by
    apply List.pairwise_of_forall_mem_list
    intro a ha b hb
    have hpa : a.priority = p := by simpa using (List.mem_filter.mp ha).2
    have hpb : b.priority = p := by simpa using (List.mem_filter.mp hb).2
    simp [hpa, hpb]
  have hsub := List.sublist_mergeSort priority_trans priority_total hequal List.filter_sublist
  have hfiltered := hsub.filter (·.priority = p)
  have htwice (ns : List Node) :
      (ns.filter (·.priority = p)).filter (·.priority = p) = ns.filter (·.priority = p) := by
    simp [List.filter_filter]
  rw [htwice] at hfiltered
  exact (hfiltered.eq_of_length (s.candidates_perm.filter _).length_eq.symm).symm

theorem mem_nodes_of_get? {id : String} (h : s.get? id = some n) : n ∈ s.nodes :=
  List.mem_of_find?_eq_some h

theorem mem_put {m : Node} {ms : List Node} (h : m ∈ put n ms) : m = n ∨ m ∈ ms := by
  induction ms with
  | nil => exact .inl (List.mem_singleton.mp h)
  | cons k ms ih =>
    unfold put at h
    split at h
    · rcases List.mem_cons.mp h with rfl | h
      · exact .inl rfl
      · exact .inr (List.mem_cons_of_mem k h)
    · rcases List.mem_cons.mp h with rfl | h
      · exact .inr List.mem_cons_self
      · exact (ih h).imp id (List.mem_cons_of_mem k)

/-- A node that was put under its id is found there, and all others are where they were. -/
theorem find?_put (n : Node) (ms : List Node) (id : String) :
    (put n ms).find? (·.id = id) = if n.id = id then some n else ms.find? (·.id = id) := by
  induction ms with
  | nil => by_cases h : n.id = id <;> simp [put, h]
  | cons m ms ih =>
    unfold put
    split
    · rename_i hm
      by_cases h : n.id = id <;> simp [h, hm]
    · rename_i hm
      by_cases h : n.id = id
      · subst h
        simpa [hm] using ih
      · by_cases hmid : m.id = id <;> simp [h, hmid, ih]

theorem get?_insert (h : s.insert n = .ok s') (id : String) :
    s'.get? id = if n.id = id then some n else s.get? id := by
  obtain ⟨-, rfl⟩ := insert_eq_ok_iff.mp h
  exact find?_put n s.nodes id

/-- The first of several insertions, and the rest on the store that it leaves. -/
theorem foldlM_insert_cons (h : (n :: ns).foldlM insert s = .ok s') :
    ∃ t, s.insert n = .ok t ∧ ns.foldlM insert t = .ok s' := by
  rw [List.foldlM_cons] at h
  cases hn : s.insert n with
  | error i =>
    rw [hn] at h
    cases h
  | ok t =>
    rw [hn] at h
    exact ⟨t, rfl, h⟩

theorem foldlM_insert_generation (h : ns.foldlM insert s = .ok s') :
    s'.generation = s.generation + ns.length := by
  induction ns generalizing s with
  | nil =>
    obtain rfl : s = s' := Except.ok.inj h
    rfl
  | cons n ns ih =>
    obtain ⟨t, hn, hrest⟩ := foldlM_insert_cons h
    have ht := insert_generation hn
    have hs := ih hrest
    rw [hs, ht, List.length_cons]
    omega

/-- Nodes of other ids are found as before. -/
theorem get?_foldlM_insert_of_notMem (h : ns.foldlM insert s = .ok s') {id : String}
    (hid : id ∉ ns.map (·.id)) : s'.get? id = s.get? id := by
  induction ns generalizing s with
  | nil =>
    obtain rfl : s = s' := Except.ok.inj h
    rfl
  | cons n ns ih =>
    obtain ⟨t, hn, hrest⟩ := foldlM_insert_cons h
    obtain ⟨hne, hns⟩ : id ≠ n.id ∧ id ∉ ns.map (·.id) := by simpa using hid
    rw [ih hrest hns, get?_insert hn, if_neg hne.symm]

/-- If no two share an id, each node inserted is found under its own. -/
theorem get?_foldlM_insert (h : ns.foldlM insert s = .ok s') (hnd : (ns.map (·.id)).Nodup) :
    ∀ n ∈ ns, s'.get? n.id = some n := by
  induction ns generalizing s with
  | nil => simp
  | cons m ns ih =>
    obtain ⟨t, hm, hrest⟩ := foldlM_insert_cons h
    obtain ⟨hnew, hns⟩ := List.nodup_cons.mp hnd
    intro n hn
    rcases List.mem_cons.mp hn with rfl | hn
    · rw [get?_foldlM_insert_of_notMem hrest hnew, get?_insert hm, if_pos rfl]
    · exact ih hrest hns n hn

/-- Nodes that may be stored each on its own are inserted without a refusal, whatever the store holds. -/
theorem insertAll_of_valid (s : Store) (h : ∀ n ∈ ns, n.invalidAtTop? = none) :
    ∃ s', s.insertAll ns = (.ok (), s') ∧ ns.foldlM insert s = .ok s' := by
  induction ns generalizing s with
  | nil => exact ⟨s, rfl, rfl⟩
  | cons n ns ih =>
    have hn : s.insert n = .ok ⟨put n s.nodes, s.generation + 1⟩ :=
      insert_eq_ok_iff.mpr ⟨h n List.mem_cons_self, rfl⟩
    obtain ⟨s', hall, hfold⟩ := ih ⟨put n s.nodes, s.generation + 1⟩ fun m hm =>
      h m (List.mem_cons_of_mem n hm)
    refine ⟨s', ?_, ?_⟩
    · simp only [insertAll, hn, hall]
    · rw [List.foldlM_cons, hn]
      exact hfold

/-- Every node of the store was checked when it was stored. -/
def Valid (s : Store) : Prop := ∀ n ∈ s.nodes, n.invalidAtTop? = none

theorem insert_valid (h : s.insert n = .ok s') (hs : s.Valid) : s'.Valid := by
  obtain ⟨hn, rfl⟩ := insert_eq_ok_iff.mp h
  intro m hm
  rcases mem_put hm with rfl | hm
  · exact hn
  · exact hs m hm

theorem foldlM_insert_valid (h : ns.foldlM insert s = .ok s') (hs : s.Valid) : s'.Valid := by
  induction ns generalizing s with
  | nil =>
    obtain rfl : s = s' := Except.ok.inj h
    exact hs
  | cons n ns ih =>
    obtain ⟨t, hn, hrest⟩ := foldlM_insert_cons h
    exact ih hrest (insert_valid hn hs)

theorem remove?_valid {id : String} (h : s.remove? id = some (n, s')) (hs : s.Valid) : s'.Valid := by
  obtain ⟨m, -, hm⟩ := Option.map_eq_some_iff.mp h
  obtain ⟨rfl, rfl⟩ := Prod.mk.inj hm
  exact fun k hk => hs k (List.mem_of_mem_eraseP hk)

/-- To load a document is to insert it as a whole, or to leave the store alone. -/
theorem load_eq (s : Store) (d : Document) :
    s.load d =
      match s.insertDocument d with
      | .error i => (.error i, s)
      | .ok s' => (.ok d.policies.length, s') := by
  unfold load insertDocument
  cases hd : d.invalid? with
  | some i => rfl
  | none =>
    obtain ⟨s', hall, hfold⟩ := s.insertAll_of_valid (Document.invalid?_eq_none_iff.mp hd).1
    simp only [hall, hfold]

/-- A document is loaded whole if it is valid, and else refused for what is wrong with it. -/
theorem load_spec (s : Store) (d : Document) :
    (∃ i, d.invalid? = some i ∧ s.load d = (.error i, s)) ∨
      ∃ s', d.invalid? = none ∧ s.load d = (.ok d.policies.length, s') ∧
        d.policies.foldlM insert s = .ok s' := by
  rw [load_eq, insertDocument]
  cases hd : d.invalid? with
  | some i => exact .inl ⟨i, rfl, rfl⟩
  | none =>
    obtain ⟨s', -, hfold⟩ := s.insertAll_of_valid (Document.invalid?_eq_none_iff.mp hd).1
    exact .inr ⟨s', rfl, by simp only [hfold], hfold⟩

theorem load_valid (d : Document) (hs : s.Valid) : (s.load d).2.Valid := by
  rcases s.load_spec d with ⟨i, -, hload⟩ | ⟨s', -, hload, hfold⟩
  · rw [hload]
    exact hs
  · rw [hload]
    exact foldlM_insert_valid hfold hs

end Store

end Arbiter
