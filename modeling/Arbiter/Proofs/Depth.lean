import Arbiter.Proofs.Inlining
import Arbiter.Proofs.Recursion

/-! How many references may be open at once counts only where one more is refused.

An evaluation that is refused none comes to the same wherever no fewer may be opened. To be refused one, it
must have followed a chain of references as long as may be open, each of which stands in the tree that the
one before it leads to. -/

namespace Arbiter

namespace PolicyAlgorithm

variable {f g : α → Visit}

/-- An overriding fold skips a child unseen, so of those it does not visit it must be known what they
carry. -/
theorem reached_eq_of_visited (winner : Effect) (ra won : Bool) {xs : List α}
    (hc : ∀ x ∈ xs, (f x).carries = (g x).carries) (h : ∀ x ∈ reached f winner ra won xs, f x = g x) :
    reached f winner ra won xs = reached g winner ra won xs := by
  induction xs generalizing won with
  | nil => rfl
  | cons x xs ih =>
    obtain ⟨hcx, hcs⟩ := List.forall_mem_cons.mp hc
    cases hskip : won && !(f x).carries with
    | true =>
      rw [reached_skipped hskip] at h ⊢
      rw [reached_skipped (hcx ▸ hskip), ih won hcs h]
    | false =>
      have hx : f x = g x := h x (mem_reached hskip xs)
      simp only [reached, ← hx, hskip, Bool.false_eq_true, if_false] at h ⊢
      by_cases hlast : (f x).decision = none ∨ ((f x).decides winner.decision ∧ ra = false)
      · rw [if_pos hlast, if_pos hlast]
      · rw [if_neg hlast] at h
        rw [if_neg hlast, if_neg hlast, ih _ hcs fun y hy => h y (List.mem_cons_of_mem x hy)]

theorem searched_eq_of_visited (sole : Option Visit) {xs : List α}
    (h : ∀ x ∈ searched f sole.isSome xs, f x = g x) :
    searched f sole.isSome xs = searched g sole.isSome xs ∧
      soleOutcome sole (xs.map f) = soleOutcome sole (xs.map g) := by
  induction xs generalizing sole with
  | nil => exact ⟨rfl, rfl⟩
  | cons x xs ih =>
    have hx : f x = g x := h x (head_mem_searched _ x xs)
    simp only [searched, soleOutcome, List.map_cons, ← hx] at h ⊢
    by_cases hn : (f x).decision = none
    · simp [hn]
    simp only [if_neg hn] at h ⊢
    cases ha : (f x).applicable with
    | true =>
      cases hs : sole.isSome with
      | true => simp
      | false =>
        simp only [ha, hs, if_true, Bool.false_eq_true, if_false] at h ⊢
        obtain ⟨hvisited, hout⟩ := ih (some (f x)) fun y hy => h y (List.mem_cons_of_mem x hy)
        exact ⟨congrArg (x :: ·) hvisited, hout⟩
    | false =>
      simp only [ha, Bool.false_eq_true, if_false] at h ⊢
      cases hq : (f x).decides .notApplicable with
      | true =>
        simp only [hq, if_true] at h ⊢
        obtain ⟨hvisited, hout⟩ := ih sole fun y hy => h y (List.mem_cons_of_mem x hy)
        exact ⟨congrArg (x :: ·) hvisited, hout⟩
      | false => simp

theorem visited_eq_of_visited (a : PolicyAlgorithm) (ra : Bool) {xs : List α}
    (hc : ∀ x ∈ xs, (f x).carries = (g x).carries) (h : ∀ x ∈ a.visited f ra xs, f x = g x) :
    a.visited f ra xs = a.visited g ra xs := by
  unfold visited at h ⊢
  cases hs : a.strategy with
  | overriding winner =>
    simp only [hs] at h
    exact reached_eq_of_visited winner ra false hc h
  | firstApplicable =>
    simp only [hs] at h
    exact upTo_congr fun x hx => by rw [h x hx]
  | onlyOneApplicable =>
    simp only [hs] at h
    exact (searched_eq_of_visited none h).1

/-- A fold comes to what the children come to that it visits. -/
theorem outcome_eq_of_visited (a : PolicyAlgorithm) (ra : Bool) {slots : Option (List (Option α))}
    (hc : ∀ x ∈ presentIn slots, (f x).carries = (g x).carries)
    (h : ∀ x ∈ a.visitedIn f ra slots, f x = g x) : a.outcome f ra slots = a.outcome g ra slots := by
  unfold outcome
  unfold visitedIn at h
  cases hp : allPresent? slots with
  | none => rfl
  | some xs =>
    rw [hp, Option.elim_some] at h
    have hsame : (a.visited f ra xs).map f = (a.visited g ra xs).map g := by
      rw [← a.visited_eq_of_visited ra (fun x hx => hc x (mem_presentIn hp hx)) h]
      exact List.map_congr_left h
    simp only [foldOutcome, hsame]
    cases hr : a.rank? with
    | some rank => rfl
    | none =>
      obtain rfl := eq_onlyOneApplicable_of_rank? hr
      simp only [(searched_eq_of_visited none h).2]

end PolicyAlgorithm

/-- What the rest of a node comes to counts only if its target matched. -/
theorem screenedVisit_eq_of_matched (m : Matching) (target : Option Condition)
    {out out' : Option (Decision × Notes)} (ho : (m.targetOutcome target).1 = .matched → out = out')
    (declared : List Obligation) (carries : Bool) :
    screenedVisit m target out declared carries = screenedVisit m target out' declared carries := by
  unfold screenedVisit
  generalize m.targetOutcome target = t at ho ⊢
  rcases t with ⟨t, n⟩
  cases t with
  | unmatched => rfl
  | indeterminate => rfl
  | matched => rw [ho rfl]

namespace Scene

/-- A node comes to the same wherever no fewer references may be opened, if none was refused. -/
theorem alone_eq_of_not_overruns {s : Scene} {ctx ctx' : Context} {n : Node}
    (hroom : room ctx ≤ room ctx') (hl : ¬ s.Overruns ctx n) : s.alone ctx n = s.alone ctx' n := by
  induction ctx, n using s.induct generalizing ctx' with
  | policy ctx p => rw [alone_policy, alone_policy]
  | policySet ctx h children ih =>
    rw [alone_policySet, alone_policySet]
    apply screenedVisit_eq_of_matched
    intro ht
    have hmatched : (s.matching.matchTarget h.target ctx.fresh).1 = .matched :=
      (congrArg (·.1) (s.matching.matchTarget_after h.target ctx.fresh)).trans ht
    apply Option.map_congr
    intro a ha
    refine a.outcome_eq_of_visited s.respectAbandoned (fun _ _ => rfl) fun n hn => ?_
    exact ih n (PolicyAlgorithm.mem_of_visitedIn _ hn) hroom fun hover =>
      hl (.child hmatched ha hn hover)
  | reference ctx id ih =>
    cases hres : s.resolve id with
    | none => simp only [alone_reference, hres]
    | some n =>
      cases hent : ctx.fresh.enterReference? with
      | none => exact absurd (.here hres hent) hl
      | some inner =>
        have hless : room inner + 1 = room ctx := @room_of_enterReference? ctx.fresh inner hent
        obtain ⟨inner', hent'⟩ : ∃ inner', ctx'.fresh.enterReference? = some inner' :=
          exists_enterReference? (show 0 < room ctx' by omega)
        have hless' : room inner' + 1 = room ctx' := @room_of_enterReference? ctx'.fresh inner' hent'
        rw [s.alone_found hres hent, s.alone_found hres hent']
        exact congrArg (foundVisit n) <|
          ih n inner hres hent (by omega) fun hover => hl (.behind hres hent hover)

end Scene

namespace Node

/-- A reference stands in a tree. -/
inductive Holds : Node → String → Prop
  | self (id : String) : Holds (.reference id) id
  | child {h children n id} : n ∈ presentIn children → Holds n id → Holds (.policySet h children) id

/-- A chain of references, all of which lead somewhere. The first one stands in the tree, and each further
one in the node that the one before it leads to. -/
inductive Chain (resolve : String → Option Node) : Node → List String → Prop
  | nil (n : Node) : Chain resolve n []
  | cons {n id m ids} : n.Holds id → resolve id = some m → Chain resolve m ids →
      Chain resolve n (id :: ids)

namespace Chain

variable {resolve : String → Option Node}

theorem child {h : PolicySetHeader} {children : Option (List (Option Node))} {n : Node}
    {ids : List String} (hn : n ∈ presentIn children) (hc : n.Chain resolve ids) :
    (policySet h children).Chain resolve ids := by
  cases hc with
  | nil => exact .nil _
  | cons hid hres hrest => exact .cons (.child hn hid) hres hrest

theorem of_append {n : Node} {ids ids' : List String} (hc : n.Chain resolve (ids ++ ids')) :
    n.Chain resolve ids := by
  induction ids generalizing n with
  | nil => exact .nil n
  | cons id ids ih =>
    cases hc with
    | cons hid hres hrest => exact .cons hid hres (ih hrest)

end Chain

end Node

namespace Scene

theorem room_of_refused {ctx : Context} (h : ctx.enterReference? = none) : room ctx = 0 := by
  unfold Context.enterReference? at h
  split at h
  · cases h
  · unfold room
    omega

/-- To be refused a reference takes a chain one longer than may be opened. -/
theorem Overruns.exists_chain {s : Scene} {ctx : Context} {n : Node} (h : s.Overruns ctx n) :
    ∃ ids, n.Chain s.resolve ids ∧ ids.length = room ctx + 1 := by
  induction h with
  | @here ctx id n hres hent =>
    refine ⟨[id], .cons (.self id) hres (.nil n), ?_⟩
    have hroom : room ctx = 0 := @room_of_refused ctx.fresh hent
    rw [hroom, List.length_singleton]
  | @behind ctx inner id n hres hent _ ih =>
    obtain ⟨ids, hc, hlen⟩ := ih
    refine ⟨id :: ids, .cons (.self id) hres hc, ?_⟩
    have hroom : room inner + 1 = room ctx := @room_of_enterReference? ctx.fresh inner hent
    rw [List.length_cons, hlen, hroom]
  | child _ _ hn _ ih =>
    obtain ⟨ids, hc, hlen⟩ := ih
    exact ⟨ids, hc.child (PolicyAlgorithm.mem_of_visitedIn _ hn), hlen⟩

/-- The references that a path of evaluations opens are a chain, and it goes on with those that stand where
the path ends. -/
theorem Path.exists_chain {s : Scene} {p q : Node × Context} {k : Nat} (h : s.Path p k q)
    {ids : List String} (hq : q.1.Chain s.resolve ids) :
    ∃ ids', p.1.Chain s.resolve ids' ∧ ids'.length = k + ids.length := by
  induction h with
  | nil p => exact ⟨ids, hq, (Nat.zero_add _).symm⟩
  | @cons p q r k ha _ ih =>
    obtain ⟨ids', hc, hlen⟩ := ih hq
    cases leads_of_asks ha with
    | child hm _ _ => exact ⟨ids', hc.child hm, by simp [opens, hlen]⟩
    | @reference id m ctx inner hres _ =>
      refine ⟨id :: ids', .cons (.self id) hres hc, ?_⟩
      simp only [opens, List.length_cons, hlen]
      omega

end Scene

end Arbiter
