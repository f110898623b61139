import Arbiter.Proofs.Engine.Run
import Arbiter.Proofs.Store
import Mathlib.Data.List.DropRight
import Mathlib.Data.List.Nodup

/-! The store as an ordered map with versions, read off the history of its changes.

An operation comes to the changes that its reply tells of, one after another, and a failed one to none.
Under an id stands what was put there last, unless the id was removed since, and the ids stand in the
order in which they came, each since it was last removed. The generation is the number of changes, so
that no two states of one generation differ. -/

namespace Arbiter

inductive Change where
  | put (n : Node)
  | drop (id : String)
  | wipe

namespace Change

/-- Whether this takes away what is stored under an id. -/
def removes (id : String) : Change → Bool
  | put _ => false
  | drop i => i = id
  | wipe => true

/-- The node that this puts under an id. -/
def nodeFor? (id : String) : Change → Option Node
  | put n => if n.id = id then some n else none
  | drop _ | wipe => none

end Change

/-- The changes that an operation made, as its reply tells. -/
def StoreOperation.changes : StoreOperation → Reply → List Change
  | .insert n, .finished (.ok _) => [.put n]
  | .insertDocument d, .inserted (.ok _) => d.policies.map .put
  | .remove id, .removed (some _) => [.drop id]
  | .clear, _ => [.wipe]
  | _, _ => []

/-- The changes made by operations that were replied to, the first of them first. -/
def historyOf (os : List StoreOperation) (replies : List Reply) : List Change :=
  (List.zipWith StoreOperation.changes os replies).flatten

namespace History

/-- The changes since an id was last removed. -/
def since (h : List Change) (id : String) : List Change := h.rtakeWhile fun c => !c.removes id

/-- The node put last under an id, unless it was removed since. -/
def latest? (h : List Change) (id : String) : Option Node :=
  ((since h id).filterMap (·.nodeFor? id)).getLast?

/-- How many changes came before the first, since an id was last removed, that put a node there. -/
def birth (h : List Change) (id : String) : Nat :=
  h.length - (since h id).length + (since h id).findIdx fun c => (c.nodeFor? id).isSome

section

variable (h : List Change) (c : Change) (id : String)

theorem since_concat :
    since (h ++ [c]) id = if c.removes id then [] else since h id ++ [c] := by
  rw [since, List.rtakeWhile_concat]
  cases c.removes id <;> rfl

theorem length_since_le : (since h id).length ≤ h.length :=
  (List.rtakeWhile_suffix _ h).length_le

theorem latest?_concat :
    latest? (h ++ [c]) id = if c.removes id then none else (c.nodeFor? id).or (latest? h id) := by
  rw [latest?, since_concat]
  split
  · rfl
  · rw [List.filterMap_append, List.getLast?_append]
    cases hc : c.nodeFor? id <;> simp [hc, latest?]

end

variable {h : List Change} {c : Change} {id : String}

/-- What stands under an id was put there by some change. -/
theorem exists_of_latest? (hp : latest? h id ≠ none) :
    ∃ c ∈ since h id, (c.nodeFor? id).isSome := by
  obtain ⟨n, hn⟩ := Option.ne_none_iff_exists'.mp hp
  obtain ⟨c, hc, hput⟩ := List.mem_filterMap.mp (List.mem_of_getLast? hn)
  exact ⟨c, hc, by simp [hput]⟩

theorem notMem_of_latest? (hp : latest? h id = none) :
    ∀ c ∈ since h id, (c.nodeFor? id).isSome = false := by
  have hnil : (since h id).filterMap (·.nodeFor? id) = [] := List.getLast?_eq_none_iff.mp hp
  intro c hc
  have hnone := List.filterMap_eq_nil_iff.mp hnil c hc
  simp [hnone]

theorem birth_lt (hp : latest? h id ≠ none) : birth h id < h.length := by
  have hlt := List.findIdx_lt_length_of_exists (exists_of_latest? hp)
  have hle := length_since_le h id
  unfold birth
  omega

/-- What came first stays first, whatever comes after it. -/
theorem birth_concat_of_present (hc : c.removes id = false) (hp : latest? h id ≠ none) :
    birth (h ++ [c]) id = birth h id := by
  have hlt := List.findIdx_lt_length_of_exists (exists_of_latest? hp)
  have hs : since (h ++ [c]) id = since h id ++ [c] := by simp [since_concat, hc]
  rw [birth, hs, List.findIdx_append, if_pos hlt, List.length_append, List.length_append]
  simp only [birth, List.length_singleton]
  omega

/-- What was not there comes last. -/
theorem birth_concat_of_absent (hc : c.removes id = false) (hn : (c.nodeFor? id).isSome)
    (hp : latest? h id = none) : birth (h ++ [c]) id = h.length := by
  have hs : since (h ++ [c]) id = since h id ++ [c] := by simp [since_concat, hc]
  have hend : (since h id).findIdx (fun c => (c.nodeFor? id).isSome) = (since h id).length :=
    List.findIdx_eq_length.mpr (notMem_of_latest? hp)
  have hle := length_since_le h id
  rw [birth, hs, List.findIdx_append, hend, if_neg (Nat.lt_irrefl _)]
  simp only [List.length_append, List.length_singleton, List.findIdx_singleton, hn, if_true]
  omega

end History

namespace Store

variable {s s' : Store} {n : Node} {ns : List Node}

def apply (s : Store) : Change → Store
  | .put n => ⟨put n s.nodes, s.generation + 1⟩
  | .drop id => ⟨s.nodes.eraseP (·.id = id), s.generation + 1⟩
  | .wipe => s.clear

theorem apply_generation (s : Store) (c : Change) : (s.apply c).generation = s.generation + 1 := by
  cases c <;> rfl

theorem foldl_apply_generation (s : Store) (cs : List Change) :
    (cs.foldl apply s).generation = s.generation + cs.length := by
  induction cs generalizing s with
  | nil => rfl
  | cons c cs ih =>
    rw [List.foldl_cons, ih, apply_generation, List.length_cons]
    omega

theorem foldl_apply_put (h : ns.foldlM insert s = .ok s') : (ns.map .put).foldl apply s = s' := by
  induction ns generalizing s with
  | nil => exact Except.ok.inj h
  | cons n ns ih =>
    obtain ⟨t, hn, hrest⟩ := foldlM_insert_cons h
    obtain ⟨-, rfl⟩ := insert_eq_ok_iff.mp hn
    exact ih hrest

/-- An operation makes the changes that its reply tells of, and no others. -/
theorem perform_eq (s : Store) (o : StoreOperation) :
    (s.perform o).2 = (o.changes (s.perform o).1).foldl apply s := by
  cases o with
  | clear => rfl
  | insert n =>
    simp only [perform]
    cases hn : s.insert n with
    | error i => rfl
    | ok s' =>
      obtain ⟨-, rfl⟩ := insert_eq_ok_iff.mp hn
      rfl
  | remove id =>
    simp only [perform, remove?]
    cases s.get? id <;> rfl
  | insertDocument d =>
    simp only [perform]
    rcases s.load_spec d with ⟨i, -, hload⟩ | ⟨s', -, hload, hfold⟩
    · rw [hload]
      rfl
    · rw [hload]
      exact (foldl_apply_put hfold).symm

/-- A store is left as it was, or its generation has grown. -/
def Moves (s s' : Store) : Prop := s' = s ∨ s.generation < s'.generation

theorem Moves.trans {s t u : Store} (h : s.Moves t) (h' : t.Moves u) : s.Moves u := by
  rcases h with rfl | h
  · exact h'
  · rcases h' with rfl | h'
    · exact .inr h
    · exact .inr (Nat.lt_trans h h')

theorem perform_moves (s : Store) (o : StoreOperation) : s.Moves (s.perform o).2 := by
  have hg := s.foldl_apply_generation (o.changes (s.perform o).1)
  have heq := s.perform_eq o
  rw [← heq] at hg
  cases hc : o.changes (s.perform o).1 with
  | nil =>
    rw [hc] at heq
    exact .inl heq
  | cons c cs =>
    rw [hc, List.length_cons] at hg
    exact .inr (by omega)

theorem perform_valid {s : Store} (o : StoreOperation) (hs : s.Valid) : (s.perform o).2.Valid := by
  cases o with
  | clear => exact fun n hn => absurd hn List.not_mem_nil
  | insert n =>
    simp only [perform]
    cases h : s.insert n with
    | error i => exact hs
    | ok s' => exact insert_valid h hs
  | remove id =>
    simp only [perform]
    rcases h : s.remove? id with _ | ⟨n, s'⟩
    · exact hs
    · exact remove?_valid h hs
  | insertDocument d =>
    have hload := load_valid d hs
    simp only [perform]
    rcases h : s.load d with ⟨_ | _, s'⟩ <;> rwa [h] at hload

theorem mem_ids {id : String} : id ∈ s.ids ↔ s.get? id ≠ none := by
  simp [ids, get?]

theorem ids_put (n : Node) (ns : List Node) :
    (put n ns).map (·.id) =
      if n.id ∈ ns.map (·.id) then ns.map (·.id) else ns.map (·.id) ++ [n.id] := by
  induction ns with
  | nil => rfl
  | cons m ns ih =>
    unfold put
    by_cases hm : m.id = n.id
    · simp [hm]
    · have hn : n.id ≠ m.id := fun h => hm h.symm
      rw [if_neg hm, List.map_cons, ih]
      by_cases hmem : n.id ∈ ns.map (·.id)
      · simp [hmem]
      · simp [hmem, hn]

/-- Where no two nodes share an id, none is left of the id of the one taken out. -/
theorem find?_eraseP (hns : (ns.map (·.id)).Nodup) (id id' : String) :
    (ns.eraseP (·.id = id)).find? (·.id = id') =
      if id = id' then none else ns.find? (·.id = id') := by
  induction ns with
  | nil => simp
  | cons m ns ih =>
    obtain ⟨hm, hns⟩ := List.nodup_cons.mp hns
    by_cases hid : m.id = id
    · subst hid
      rw [List.eraseP_cons_of_pos (by simp)]
      by_cases hid' : m.id = id'
      · subst hid'
        simpa using hm
      · simp [hid']
    · rw [List.eraseP_cons_of_neg (by simpa using hid), List.find?_cons, List.find?_cons, ih hns]
      by_cases hid' : m.id = id'
      · have hne : id ≠ id' := fun h => hid (hid'.trans h.symm)
        simp [hid', hne]
      · simp [hid']

/-- What the history of a store tells of it. -/
structure Tells (s : Store) (h : List Change) : Prop where
  found : ∀ id, s.get? id = History.latest? h id
  order : s.ids.Pairwise fun a b => History.birth h a < History.birth h b
  generation : s.generation = h.length

namespace Tells

variable {h : List Change}

theorem nodup (ht : s.Tells h) : s.ids.Nodup :=
  ht.order.imp fun hlt heq => absurd hlt (by rw [heq]; exact Nat.lt_irrefl _)

theorem present (ht : s.Tells h) {id : String} (hid : id ∈ s.ids) : History.latest? h id ≠ none := by
  rw [← ht.found]
  exact mem_ids.mp hid

theorem found_apply (ht : s.Tells h) (c : Change) (id : String) :
    (s.apply c).get? id = History.latest? (h ++ [c]) id := by
  rw [History.latest?_concat, ← ht.found]
  cases c with
  | wipe => rfl
  | put n =>
    have hput : (s.apply (.put n)).get? id = if n.id = id then some n else s.get? id :=
      find?_put n s.nodes id
    by_cases hid : n.id = id <;> simp [hput, hid, Change.removes, Change.nodeFor?]
  | drop i =>
    have herase : (s.apply (.drop i)).get? id = if i = id then none else s.get? id :=
      find?_eraseP ht.nodup i id
    simp [herase, Change.removes, Change.nodeFor?]

/-- A change leaves the places of all ids that stay. -/
theorem birth_apply (ht : s.Tells h) (c : Change) {id : String} (hid : id ∈ s.ids)
    (hid' : id ∈ (s.apply c).ids) : History.birth (h ++ [c]) id = History.birth h id := by
  have hstays : History.latest? (h ++ [c]) id ≠ none := by
    rw [← ht.found_apply c]
    exact mem_ids.mp hid'
  refine History.birth_concat_of_present ?_ (ht.present hid)
  rw [History.latest?_concat] at hstays
  cases hc : c.removes id with
  | false => rfl
  | true => simp [hc] at hstays

theorem order_apply (ht : s.Tells h) (c : Change) :
    (s.apply c).ids.Pairwise fun a b => History.birth (h ++ [c]) a < History.birth (h ++ [c]) b := by
  have hkept {l : List String} (hl : l.Sublist s.ids) (hl' : l ⊆ (s.apply c).ids) :
      l.Pairwise fun a b => History.birth (h ++ [c]) a < History.birth (h ++ [c]) b := by
    refine (ht.order.sublist hl).imp_of_mem fun ha hb hlt => ?_
    rw [ht.birth_apply c (hl.subset ha) (hl' ha), ht.birth_apply c (hl.subset hb) (hl' hb)]
    exact hlt
  cases c with
  | wipe => exact .nil
  | drop i => exact hkept (List.eraseP_sublist.map _) (List.Subset.refl _)
  | put n =>
    have hids : (s.apply (.put n)).ids = if n.id ∈ s.ids then s.ids else s.ids ++ [n.id] :=
      ids_put n s.nodes
    by_cases hn : n.id ∈ s.ids
    · rw [if_pos hn] at hids
      rw [hids]
      exact hkept (List.Sublist.refl _) (by rw [hids]; exact List.Subset.refl _)
    · rw [if_neg hn] at hids
      have hsub : s.ids ⊆ (s.apply (.put n)).ids := by
        rw [hids]
        exact List.subset_append_left ..
      rw [hids, List.pairwise_append]
      refine ⟨hkept (List.Sublist.refl _) hsub, List.pairwise_singleton .., ?_⟩
      -- The id is new, and so comes after all that are there.
      intro a ha b hb
      obtain rfl := List.mem_singleton.mp hb
      have hnew : History.latest? h n.id = none := by
        rw [← ht.found]
        simpa [mem_ids] using hn
      rw [ht.birth_apply _ ha (hsub ha),
        History.birth_concat_of_absent rfl (by simp [Change.nodeFor?]) hnew]
      exact History.birth_lt (ht.present ha)

theorem apply (ht : s.Tells h) (c : Change) : (s.apply c).Tells (h ++ [c]) where
  found := ht.found_apply c
  order := ht.order_apply c
  generation := by
    rw [apply_generation, ht.generation, List.length_append]
    rfl

theorem foldl_apply (ht : s.Tells h) (cs : List Change) :
    (cs.foldl Store.apply s).Tells (h ++ cs) := by
  induction cs generalizing s h with
  | nil => simpa using ht
  | cons c cs ih => simpa using ih (ht.apply c)

end Tells

/-- The replies to operations one after another, and the store they leave. -/
def run (s : Store) : List StoreOperation → List Reply × Store
  | [] => ([], s)
  | o :: os =>
    let (reply, s) := s.perform o
    let (replies, s) := s.run os
    (reply :: replies, s)

/-- The states that insertions go through, one for each node up to the first that is refused. -/
def insertStages (s : Store) : List Node → List Store
  | [] => []
  | n :: ns =>
    match s.insert n with
    | .error _ => []
    | .ok s => s :: s.insertStages ns

/-- The states that an operation goes through, the one it leaves last. -/
def stages (s : Store) : StoreOperation → List Store
  | .insertDocument d => if d.invalid?.isSome then [] else s.insertStages d.policies
  | o => [(s.perform o).2]

/-- The states of a store in the course of operations, those between two nodes of a document
included. -/
def course (s : Store) : List StoreOperation → List Store
  | [] => [s]
  | o :: os => s :: (s.stages o ++ (s.perform o).2.course os)

theorem run_tells {h : List Change} (ht : s.Tells h) (os : List StoreOperation) :
    (s.run os).2.Tells (h ++ historyOf os (s.run os).1) := by
  induction os generalizing s h with
  | nil => simpa [run, historyOf] using ht
  | cons o os ih =>
    have hstep := ht.foldl_apply (o.changes (s.perform o).1)
    rw [← perform_eq] at hstep
    simpa [run, historyOf] using ih hstep

theorem run_valid (hs : s.Valid) (os : List StoreOperation) : (s.run os).2.Valid := by
  induction os generalizing s with
  | nil => exact hs
  | cons o os ih => exact ih (perform_valid o hs)

theorem insertStages_pairwise (s : Store) (ns : List Node) :
    (s :: s.insertStages ns).Pairwise Moves := by
  induction ns generalizing s with
  | nil => exact List.pairwise_singleton ..
  | cons n ns ih =>
    unfold insertStages
    cases hn : s.insert n with
    | error i => exact List.pairwise_singleton ..
    | ok t =>
      have hg := insert_generation hn
      have hmoves : s.Moves t := .inr (by omega)
      refine .cons ?_ (ih t)
      intro u hu
      rcases List.mem_cons.mp hu with rfl | hu
      · exact hmoves
      · exact hmoves.trans (List.rel_of_pairwise_cons (ih t) hu)

theorem foldlM_insert_moves (h : ns.foldlM insert s = .ok s') : s.Moves s' := by
  induction ns generalizing s with
  | nil => exact .inl (Except.ok.inj h).symm
  | cons n ns ih =>
    obtain ⟨t, hn, hrest⟩ := foldlM_insert_cons h
    have hg := insert_generation hn
    have hmoves : s.Moves t := .inr (by omega)
    exact hmoves.trans (ih hrest)

theorem moves_of_mem_insertStages (h : ns.foldlM insert s = .ok s') :
    ∀ t ∈ s.insertStages ns, t.Moves s' := by
  induction ns generalizing s with
  | nil => simp [insertStages]
  | cons n ns ih =>
    obtain ⟨t, hn, hrest⟩ := foldlM_insert_cons h
    intro u hu
    simp only [insertStages, hn, List.mem_cons] at hu
    rcases hu with rfl | hu
    · exact foldlM_insert_moves hrest
    · exact ih hrest u hu

/-- An operation moves the store from stage to stage, and on to where it leaves it. -/
theorem stages_pairwise (s : Store) (o : StoreOperation) :
    (s :: s.stages o).Pairwise Moves ∧ ∀ t ∈ s.stages o, t.Moves (s.perform o).2 := by
  have hlone : (s :: [(s.perform o).2]).Pairwise Moves ∧
      ∀ t ∈ [(s.perform o).2], t.Moves (s.perform o).2 := by
    have hmoves := s.perform_moves o
    refine ⟨by simpa using hmoves, ?_⟩
    intro t ht
    exact .inl (List.mem_singleton.mp ht).symm
  cases o with
  | insert n => exact hlone
  | remove id => exact hlone
  | clear => exact hlone
  | insertDocument d =>
    simp only [stages, perform]
    rcases s.load_spec d with ⟨i, hd, -⟩ | ⟨s', hd, hload, hfold⟩
    · simp [hd]
    · simp only [hd, hload, Option.isSome_none, Bool.false_eq_true, if_false]
      exact ⟨s.insertStages_pairwise d.policies, moves_of_mem_insertStages hfold⟩

theorem moves_of_mem_course (s : Store) (os : List StoreOperation) :
    ∀ t ∈ s.course os, s.Moves t := by
  induction os generalizing s with
  | nil =>
    intro t ht
    exact .inl (List.mem_singleton.mp ht)
  | cons o os ih =>
    intro t ht
    rcases List.mem_cons.mp ht with rfl | ht
    · exact .inl rfl
    · rcases List.mem_append.mp ht with ht | ht
      · exact List.rel_of_pairwise_cons (s.stages_pairwise o).1 ht
      · exact (s.perform_moves o).trans (ih _ t ht)

theorem course_pairwise (s : Store) (os : List StoreOperation) : (s.course os).Pairwise Moves := by
  induction os generalizing s with
  | nil => exact List.pairwise_singleton ..
  | cons o os ih =>
    obtain ⟨hstages, hon⟩ := s.stages_pairwise o
    refine .cons ?_ (List.pairwise_append.mpr ⟨hstages.of_cons, ih _, ?_⟩)
    · intro t ht
      exact s.moves_of_mem_course (o :: os) t (List.mem_cons_of_mem s ht)
    · intro t ht u hu
      exact (hon t ht).trans (moves_of_mem_course _ os u hu)

/-- The course ends where the run does. -/
theorem getLast?_course (s : Store) (os : List StoreOperation) :
    (s.course os).getLast? = some (s.run os).2 := by
  induction os generalizing s with
  | nil => rfl
  | cons o os ih =>
    have hrest := ih (s.perform o).2
    show (s :: (s.stages o ++ (s.perform o).2.course os)).getLast? = some ((s.perform o).2.run os).2
    rw [List.getLast?_cons, List.getLast?_append, hrest]
    rfl

theorem perform_failed {s : Store} {o : StoreOperation} (h : (s.perform o).1.failed) :
    (s.perform o).2 = s := by
  cases o with
  | clear => cases h
  | insert n =>
    simp only [perform] at h ⊢
    cases hn : s.insert n with
    | error i => rfl
    | ok s' =>
      rw [hn] at h
      cases h
  | remove id =>
    simp only [perform] at h ⊢
    rcases hr : s.remove? id with _ | ⟨n, s'⟩
    · rfl
    · rw [hr] at h
      cases h
  | insertDocument d =>
    simp only [perform] at h ⊢
    rcases s.load_spec d with ⟨i, -, hload⟩ | ⟨s', -, hload, -⟩
    · rw [hload]
    · rw [hload] at h
      cases h

/-- What a store is after its history: a map from ids to nodes that keeps the order in which the ids
came, and counts its changes. -/
structure Refines (s : Store) (h : List Change) : Prop where
  distinct : s.ids.Nodup
  /-- References stand in for other nodes and are not stored themselves. -/
  checked : ∀ n ∈ s.nodes, (∀ id, n ≠ .reference id) ∧ n.invalid? = none
  listed : ∀ n, n ∈ s.nodes ↔ History.latest? h n.id = some n
  order : s.ids.Pairwise fun a b => History.birth h a < History.birth h b
  found : ∀ id n, s.get? id = some n ↔ n ∈ s.nodes ∧ n.id = id
  resolved : ∀ (e : Engine) (r : Request), e.store = s → ∀ id n,
    (e.scene r).resolve id = some n ↔ n ∈ s.nodes ∧ n.id = id
  candidates : s.candidates.Perm (s.nodes.filter (·.isEnabled))
  sorted : s.candidates.Pairwise fun a b => b.priority ≤ a.priority
  stable : ∀ p : Int32, s.candidates.filter (·.priority = p) =
    (s.nodes.filter (·.isEnabled)).filter (·.priority = p)
  generation : s.generation = h.length
  failing : ∀ o, (s.perform o).1.failed → (s.perform o).2 = s

/-- Where no two nodes share an id, each is found under its own. -/
theorem get?_eq_some_iff (hs : s.ids.Nodup) {id : String} :
    s.get? id = some n ↔ n ∈ s.nodes ∧ n.id = id := by
  constructor
  · intro h
    exact ⟨mem_nodes_of_get? h, by simpa using List.find?_some h⟩
  · rintro ⟨hn, rfl⟩
    obtain ⟨m, hm⟩ := Option.ne_none_iff_exists'.mp (mem_ids.mp (List.mem_map_of_mem hn))
    have hid : m.id = n.id := by simpa using List.find?_some hm
    have hmn : m = n := List.inj_on_of_nodup_map hs (mem_nodes_of_get? hm) hn hid
    rw [hm, hmn]

theorem Tells.refines {h : List Change} (ht : s.Tells h) (hs : s.Valid) : s.Refines h where
  distinct := ht.nodup
  checked := by
    intro n hn
    have htop := hs n hn
    cases n with
    | reference id => cases htop
    | policy | policySet => exact ⟨fun _ heq => (nomatch heq), htop⟩
  listed n := by
    rw [← ht.found, get?_eq_some_iff ht.nodup]
    simp
  order := ht.order
  found _ _ := get?_eq_some_iff ht.nodup
  resolved := by
    rintro e r rfl id n
    exact get?_eq_some_iff ht.nodup
  candidates := s.candidates_perm
  sorted := s.candidates_sorted
  stable := s.candidates_stable
  generation := ht.generation
  failing _ := perform_failed

/-- Operations on an empty store, whether they succeed or fail, leave it as its history tells. Its
generation never falls, and while that stays, so do the nodes. -/
theorem run_refines (os : List StoreOperation) :
    let out := run {} os
    out.2.Refines (historyOf os out.1) ∧ (course {} os).getLast? = some out.2 ∧
      (course {} os).Pairwise fun s s' =>
        s.generation ≤ s'.generation ∧ (s.generation = s'.generation → s.nodes = s'.nodes) := by
  intro out
  have hempty : Tells {} [] := ⟨fun _ => rfl, .nil, rfl⟩
  have htells : out.2.Tells (historyOf os out.1) := by simpa using run_tells hempty os
  have hvalid : out.2.Valid := run_valid (fun n hn => absurd hn List.not_mem_nil) os
  refine ⟨htells.refines hvalid, getLast?_course {} os, (course_pairwise {} os).imp ?_⟩
  rintro s s' (rfl | hlt)
  · exact ⟨Nat.le_refl _, fun _ => rfl⟩
  · exact ⟨Nat.le_of_lt hlt, fun heq => absurd heq (Nat.ne_of_lt hlt)⟩

/-- A node that is replaced keeps its place, and one that is removed and comes again is the last. -/
example :
    let p (id : String) (priority : Int32) : Node := .policy { Policy.ofId id with priority }
    let s : Store := (run {} [.insert (p "a" 1), .insert (p "b" 1)]).2
    (s.run [.insert (p "a" 2)]).2.nodes = [p "a" 2, p "b" 1] ∧
      (s.run [.remove "a", .insert (p "a" 2)]).2.nodes = [p "b" 1, p "a" 2] :=
  ⟨rfl, rfl⟩

end Store

end Arbiter
