import Arbiter.Proofs.Tree

namespace Arbiter

namespace PolicyAlgorithm

variable (f : α → Visit)

theorem head_mem_reached (winner : Effect) (ra : Bool) (x : α) (xs : List α) :
    x ∈ reached f winner ra false (x :: xs) :=
  mem_reached rfl xs

/-- An overriding fold in which nothing is decided by one child visits all of them. -/
theorem reached_of_open (winner : Effect) (ra : Bool) {xs : List α}
    (hn : ∀ x ∈ reached f winner ra false xs, (f x).decision ≠ none)
    (hw : ∀ x ∈ reached f winner ra false xs, (f x).decision ≠ some winner.decision) :
    reached f winner ra false xs = xs := by
  induction xs with
  | nil => rfl
  | cons x xs ih =>
    have hhead := head_mem_reached f winner ra x xs
    have hx : (f x).decides winner.decision = false := by
      simpa [Visit.decides] using hw x hhead
    have hstep : reached f winner ra false (x :: xs) = x :: reached f winner ra false xs := by
      simp [reached, hn x hhead, hx]
    rw [hstep] at hn hw ⊢
    rw [ih (fun y hy => hn y (List.mem_cons_of_mem x hy)) fun y hy => hw y (List.mem_cons_of_mem x hy)]

/-- A fold gets as far as the first child that can settle it: one of the overriding effect, or one
without an algorithm. -/
theorem exists_reached (winner : Effect) (ra : Bool) {xs : List α} {x : α} (hx : x ∈ xs)
    (h : (f x).decision = none ∨ (f x).decision = some winner.decision) :
    ∃ y ∈ reached f winner ra false xs,
      (f y).decision = none ∨ (f y).decision = some winner.decision := by
  induction xs with
  | nil => simp at hx
  | cons y ys ih =>
    by_cases hy : (f y).decision = none ∨ (f y).decision = some winner.decision
    · exact ⟨y, head_mem_reached f winner ra y ys, hy⟩
    · obtain ⟨hn, hw⟩ := not_or.mp hy
      have hxs : x ∈ ys := by
        rcases List.mem_cons.mp hx with rfl | hm
        · exact absurd h hy
        · exact hm
      obtain ⟨z, hz, hd⟩ := ih hxs
      have hdw : (f y).decides winner.decision = false := by simpa [Visit.decides] using hw
      exact ⟨z, by simp [reached, hn, hdw, hz], hd⟩

theorem mem_decisionsOf {d : Decision} {xs : List α} :
    d ∈ decisionsOf (xs.map f) ↔ ∃ x ∈ xs, (f x).decision = some d := by
  simp [decisionsOf]

theorem mem_of_foremost {order ds : List Decision} {d : Decision} (h : foremost order ds = d)
    (hd : d ≠ .notApplicable) : d ∈ ds := by
  unfold foremost at h
  cases hf : order.find? (· ∈ ds) with
  | none => simp [hf, hd.symm] at h
  | some x =>
    obtain rfl : x = d := by simpa [hf] using h
    simpa using List.find?_some hf

/-- Skipping and stopping leave the rank of the decisions as it is. -/
theorem foremost_reached (winner : Effect) (ra : Bool) {xs : List α}
    (hn : ∀ x ∈ xs, (f x).decision ≠ none) :
    foremost (rankOrder winner) (decisionsOf ((reached f winner ra false xs).map f)) =
      foremost (rankOrder winner) (decisionsOf (xs.map f)) := by
  by_cases hw : ∃ x ∈ xs, (f x).decision = some winner.decision
  · obtain ⟨x, hx, hd⟩ := hw
    obtain ⟨y, hy, hyd⟩ := exists_reached f winner ra hx (.inr hd)
    have hyx : y ∈ xs := (reached_sublist winner ra false xs).subset hy
    have hyw : (f y).decision = some winner.decision := hyd.resolve_left (hn y hyx)
    rw [foremost_winner ((mem_decisionsOf f).mpr ⟨x, hx, hd⟩),
      foremost_winner ((mem_decisionsOf f).mpr ⟨y, hy, hyw⟩)]
  · have hsub := reached_sublist (f := f) winner ra false xs
    rw [reached_of_open f winner ra (fun x hx => hn x (hsub.subset hx)) fun x hx hd =>
      hw ⟨x, hsub.subset hx, hd⟩]

/-- A fold comes to a fault only if no child is of the overriding effect, so it has visited them all. -/
theorem reached_of_fault (winner : Effect) (ra : Bool) {xs : List α}
    (hn : ∀ x ∈ reached f winner ra false xs, (f x).decision ≠ none)
    (hi : foremost (rankOrder winner) (decisionsOf ((reached f winner ra false xs).map f)) =
      .indeterminate) : reached f winner ra false xs = xs := by
  apply reached_of_open f winner ra hn
  intro x hx hd
  rw [foremost_winner ((mem_decisionsOf f).mpr ⟨x, hx, hd⟩)] at hi
  cases winner <;> simp [Effect.decision] at hi

theorem firstApplying_upTo {xs : List α} (hn : ∀ x ∈ xs, (f x).decision ≠ none) :
    firstApplying (decisionsOf ((upTo (fun x => !(f x).decides .notApplicable) xs).map f)) =
      firstApplying (decisionsOf (xs.map f)) := by
  induction xs with
  | nil => rfl
  | cons x xs ih =>
    obtain ⟨d, hd⟩ := Option.ne_none_iff_exists'.mp (hn x List.mem_cons_self)
    have hrest := ih fun y hy => hn y (List.mem_cons_of_mem x hy)
    by_cases h : d = .notApplicable
    · simp_all [upTo, Visit.decides, decisionsOf, firstApplying]
    · simp [upTo, Visit.decides, decisionsOf, firstApplying, hd, h]

/-- What a ranking fold has visited settles its decision as well as the whole list does. -/
theorem rank_visited (a : PolicyAlgorithm) {rank : List Decision → Decision}
    (ha : a.rank? = some rank) (ra : Bool) {xs : List α} (hn : ∀ x ∈ xs, (f x).decision ≠ none) :
    rank (decisionsOf ((a.visited f ra xs).map f)) = rank (decisionsOf (xs.map f)) := by
  unfold rank? at ha
  unfold visited
  cases hs : a.strategy with
  | overriding winner =>
    rw [hs] at ha
    obtain rfl : foremost (rankOrder winner) = rank := Option.some.inj ha
    exact foremost_reached f winner ra hn
  | firstApplicable =>
    rw [hs] at ha
    obtain rfl : firstApplying = rank := Option.some.inj ha
    exact firstApplying_upTo f hn
  | onlyOneApplicable => simp [hs] at ha

theorem foldOutcome_decision (a : PolicyAlgorithm) {rank : List Decision → Decision}
    (ha : a.rank? = some rank) (ra : Bool) {xs : List α} (hn : ∀ x ∈ xs, (f x).decision ≠ none) :
    (a.foldOutcome f ra xs).1 = rank (decisionsOf (xs.map f)) := by
  have hvis : ((a.visited f ra xs).map f).any (·.decision.isNone) = false := by
    rw [List.any_eq_false]
    intro v hv
    obtain ⟨x, hx, rfl⟩ := List.mem_map.mp hv
    have := hn x ((a.visited_sublist ra xs).subset hx)
    simpa using this
  simp only [foldOutcome, ha]
  rw [rankedOutcome_of_decided rank hvis, rank_visited f a ha ra hn]

end PolicyAlgorithm

namespace Scene

/-- A fold over a context that earlier evaluations may have used decides as the algorithm ranks the
decisions that its nodes come to alone, each on a fresh context of the same depth. Whether abandoned
children are respected at this level need not be as in the scene. -/
theorem decision_eq_rank_of_alone (s : Scene) (a : PolicyAlgorithm)
    (rank : List Decision → Decision) (ha : a.rank? = some rank) (ra : Bool) (ns : List Node)
    (ds : List Decision) (ctx : Context) (ho : ctx.obligations = [])
    (hd : ns.map (fun n => (s.evaluateNode n ctx.fresh).1) = ds.map some) :
    (a.combine ra (some (ns.map fun n => some (s.childWithin (room ctx) n))) ctx).1 = rank ds := by
  have halone : ns.map (fun n => (s.alone ctx n).decision) = ds.map some := hd
  have hsome : ∀ n ∈ ns, (s.alone ctx n).decision ≠ none := by
    intro n hn h
    have hm : none ∈ ds.map some := by
      rw [← halone]
      exact List.mem_map.mpr ⟨n, hn, h⟩
    simp at hm
  have hds : decisionsOf (ns.map (s.alone ctx)) = ds :=
    calc decisionsOf (ns.map (s.alone ctx))
        = (ns.map fun n => (s.alone ctx n).decision).filterMap id := by
          rw [decisionsOf, List.filterMap_map, List.filterMap_map]
          rfl
      _ = (ds.map some).filterMap id := by rw [halone]
      _ = ds := by simp
  obtain ⟨b, hb⟩ := s.combineNodes_eq a ra (some (ns.map some)) ctx ho
  simp only [Option.map_some, List.map_map, Function.comp_def] at hb
  rw [hb]
  simp only [PolicyAlgorithm.outcome, allPresent?_map_some]
  rw [a.foldOutcome_decision _ ha ra hsome, hds]

/-- A policy denies, and a reference to one that permits follows, on a context used before. -/
theorem decision_eq_rank_of_alone_reference :
    ((Scene.leadingTo (.policy (.always "p" .permit []))).combineNodes .permitOverrides
      (some [some (.policy (.always "q" .deny [])), some (.reference "p")])
      { statusCode := .syntaxError, targetMatched := true }).1 =
        foremost (rankOrder .permit) [.deny, .permit] :=
  (Scene.leadingTo (.policy (.always "p" .permit []))).decision_eq_rank_of_alone .permitOverrides
    (foremost (rankOrder .permit)) rfl false [.policy (.always "q" .deny []), .reference "p"]
    [.deny, .permit] { statusCode := .syntaxError, targetMatched := true } rfl (by decide)

end Scene

end Arbiter
