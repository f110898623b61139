import Arbiter.Proofs.Abandoned
import Arbiter.Proofs.Faults
import Arbiter.Proofs.Unburdened

/-! When it changes a decision to respect abandoned children.

A child that is visited only for its obligations may turn out to have no algorithm. That cuts short a
fold that was decided already, and nothing else changes what a fold decides. -/

namespace Arbiter

namespace PolicyAlgorithm

/-- No child is cut short before one decides the overriding effect, but one that may bring obligations
is after that. -/
inductive CutLate (f : α → Visit) (winner : Effect) : List α → Prop
  | won {x : α} {xs : List α} (hx : (f x).decision = some winner.decision)
      (hxs : ∃ y ∈ xs, (f y).carries ∧ (f y).decision = none) : CutLate f winner (x :: xs)
  | later {x : α} {xs : List α} (hx : (f x).decision ≠ none) (hxs : CutLate f winner xs) :
      CutLate f winner (x :: xs)

variable {f g : α → Visit} {winner : Effect}

theorem CutLate.exists_cut {xs : List α} (h : CutLate f winner xs) :
    ∃ y ∈ xs, (f y).carries ∧ (f y).decision = none := by
  induction h with
  | won hx hxs =>
    obtain ⟨y, hy, hcut⟩ := hxs
    exact ⟨y, List.mem_cons_of_mem _ hy, hcut⟩
  | later hx hxs ih =>
    obtain ⟨y, hy, hcut⟩ := ih
    exact ⟨y, List.mem_cons_of_mem _ hy, hcut⟩

theorem CutLate.exists_winner {xs : List α} (h : CutLate f winner xs) :
    ∃ x ∈ xs, (f x).decision = some winner.decision := by
  induction h with
  | won hx hxs => exact ⟨_, List.mem_cons_self, hx⟩
  | later hx hxs ih =>
    obtain ⟨x, hx, hw⟩ := ih
    exact ⟨x, List.mem_cons_of_mem _ hx, hw⟩

theorem CutLate.of_grown {xs : List α} (h : ∀ x ∈ xs, (f x).Grows (g x)) (hc : CutLate g winner xs) :
    CutLate f winner xs := by
  induction hc with
  | won hx hxs =>
    obtain ⟨y, hy, hcarries, hcut⟩ := hxs
    have hyg := h y (List.mem_cons_of_mem _ hy)
    exact .won ((h _ List.mem_cons_self).decision.trans hx)
      ⟨y, hy, hyg.carries.trans hcarries, hyg.decision.trans hcut⟩
  | later hx hxs ih =>
    exact .later ((h _ List.mem_cons_self).decision ▸ hx) (ih fun y hy => h y (List.mem_cons_of_mem _ hy))

/-- Once it is decided, a fold that respects abandoned children is cut short by any of those left that
may bring obligations. -/
theorem exists_cut_reached_won {xs : List α} :
    (∃ y ∈ reached f winner true true xs, (f y).decision = none) ↔
      ∃ y ∈ xs, (f y).carries ∧ (f y).decision = none := by
  induction xs with
  | nil => simp [reached]
  | cons x xs ih =>
    cases hc : (f x).carries with
    | false =>
      rw [reached_skipped (by simp [hc]), ih]
      simp [hc]
    | true =>
      by_cases hx : (f x).decision = none
      · simp [reached, hc, hx]
      · rw [reached_further (by simp [hc]) hx (by simp), Bool.true_or]
        simp [hx, ih]

/-- A fold is cut late if it is cut short where it respects abandoned children, and is not where it does
not. -/
theorem cutLate_iff {xs : List α} :
    CutLate f winner xs ↔
      (∀ x ∈ reached f winner false false xs, (f x).decision ≠ none) ∧
        ∃ x ∈ reached f winner true false xs, (f x).decision = none := by
  induction xs with
  | nil =>
    constructor
    · intro h
      cases h
    · simp [reached]
  | cons x xs ih =>
    by_cases hx : (f x).decision = none
    · have hnot : ¬ CutLate f winner (x :: xs) := by
        intro h
        cases h with
        | won hw _ => simp [hx] at hw
        | later hd _ => exact hd hx
      simp [reached, hx, hnot]
    by_cases hw : (f x).decision = some winner.decision
    · have hdw : (f x).decides winner.decision := by simp [Visit.decides, hw]
      have hlate : CutLate f winner (x :: xs) ↔ ∃ y ∈ xs, (f y).carries ∧ (f y).decision = none := by
        constructor
        · intro h
          cases h with
          | won _ hxs => exact hxs
          | later _ hxs => exact hxs.exists_cut
        · exact .won hw
      rw [hlate, reached_last rfl ⟨hdw, rfl⟩, reached_further rfl hx (by simp), hdw, Bool.false_or,
        ← @exists_cut_reached_won _ f winner]
      simp [hx]
    · have hdw : (f x).decides winner.decision = false := by simp [Visit.decides, hw]
      have hlate : CutLate f winner (x :: xs) ↔ CutLate f winner xs := by
        constructor
        · intro h
          cases h with
          | won h _ => exact absurd h hw
          | later _ hxs => exact hxs
        · exact .later hx
      rw [hlate, ih, reached_further rfl hx (by simp [hdw]), reached_further rfl hx (by simp), hdw,
        Bool.false_or]
      simp [hx]

theorem foldOutcome_of_cutLate {a : PolicyAlgorithm} (ha : a.strategy = .overriding winner)
    {xs : List α} (hc : CutLate f winner xs) :
    (a.foldOutcome f false xs).1 = winner.decision ∧
      a.foldOutcome f true xs = (.indeterminate, illFormedNotes ((a.visited f true xs).map f)) := by
  obtain ⟨hopen, hcut⟩ := cutLate_iff.mp hc
  obtain ⟨x, hx, hw⟩ := hc.exists_winner
  obtain ⟨y, hy, hyd⟩ := exists_reached f winner false hx (.inr hw)
  have hyw : (f y).decision = some winner.decision := hyd.resolve_left (hopen y hy)
  have hall : ((reached f winner false false xs).map f).any (·.decision.isNone) = false := by
    simpa using hopen
  constructor
  · simp only [foldOutcome, rank?, visited, ha]
    rw [rankedOutcome_of_decided _ hall]
    exact foremost_winner ((mem_decisionsOf f).mpr ⟨y, hy, hyw⟩)
  · apply foldOutcome_cut
    rwa [visited, ha]

/-- A fold that is not cut late comes to the same decision and status, whether it respects abandoned
children or not. -/
theorem foldOutcome_respecting (a : PolicyAlgorithm) {xs : List α} (h : ∀ x ∈ xs, (f x).Grows (g x))
    (hc : ∀ winner, a.strategy = .overriding winner → ¬ CutLate g winner xs) :
    GrowsTo (a.foldOutcome f false xs) (a.foldOutcome g true xs) := by
  by_cases hcut : ∃ x ∈ a.visited g true xs, (g x).decision = none
  · have hcut' : ∃ x ∈ a.visited g false xs, (g x).decision = none := by
      unfold visited at hcut ⊢
      cases hs : a.strategy with
      | overriding winner =>
        simp only [hs] at hcut ⊢
        apply Classical.byContradiction
        intro hopen
        exact hc winner hs (cutLate_iff.mpr ⟨fun x hx hd => hopen ⟨x, hx, hd⟩, hcut⟩)
      | firstApplicable | onlyOneApplicable => simpa only [hs] using hcut
    have hoff : ∃ x ∈ a.visited f false xs, (f x).decision = none := by
      rw [a.visited_congr false h]
      obtain ⟨x, hx, hd⟩ := hcut'
      exact ⟨x, hx, (h x ((a.visited_sublist false xs).subset hx)).decision.trans hd⟩
    rw [a.foldOutcome_cut f false hoff, a.foldOutcome_cut g true hcut]
    exact ⟨rfl, rfl, rfl, .refl _⟩
  · exact a.foldOutcome_grows h fun x hx hd => hcut ⟨x, hx, hd⟩

end PolicyAlgorithm

open PolicyAlgorithm (CutLate foldOutcome_of_cutLate)

/-- What it changes to respect abandoned children in a fold that `winner` overrides, `late` telling whether
that cuts it late: the decision is the same, or the overriding effect gives way to a syntax error. -/
structure AlikeUnless (winner : Effect) (late : Prop) (off on : Decision × Context) : Prop where
  decision : on.1 = off.1 ↔ ¬ late
  interrupted : late →
    off.1 = winner.decision ∧ on.1 = .indeterminate ∧ on.2.statusCodes = [.syntaxError]

namespace Scene

/-- Somewhere in the evaluation of the node a fold is cut late. -/
inductive Spoilt (s : Scene) : Context → Node → Prop
  | here {ctx : Context} {h : PolicySetHeader} {children : Option (List (Option Node))}
      {a : PolicyAlgorithm} {winner : Effect} {ns : List Node}
      (ht : (s.matching.matchTarget h.target {}).1 = .matched) (ha : h.algorithm = some a)
      (hw : a.strategy = .overriding winner) (hp : allPresent? children = some ns)
      (hc : CutLate ((s.respecting true).alone ctx) winner ns) : Spoilt s ctx (.policySet h children)
  | beneath {ctx : Context} {h : PolicySetHeader} {children : Option (List (Option Node))} {n : Node}
      (ht : (s.matching.matchTarget h.target {}).1 = .matched) (hn : n ∈ presentIn children)
      (hs : Spoilt s ctx n) : Spoilt s ctx (.policySet h children)
  | behind {ctx inner : Context} {id : String} {n : Node} (hn : s.resolve id = some n)
      (hin : ctx.fresh.enterReference? = some inner) (hs : Spoilt s inner n) :
      Spoilt s ctx (.reference id)

/-- To respect abandoned children at every level changes nothing in a node of which no fold is cut late,
but that more obligations are left. -/
theorem alone_grows (s : Scene) (ctx : Context) (n : Node) (hn : ¬ s.Spoilt ctx n) :
    ((s.respecting false).alone ctx n).Grows ((s.respecting true).alone ctx n) := by
  induction ctx, n using s.induct with
  | policy ctx p =>
    rw [alone_policy, alone_policy]
    exact .refl _
  | policySet ctx h children ih =>
    rw [alone_policySet, alone_policySet]
    apply screenedVisit_grows
    intro ht
    have ht : (s.matching.matchTarget h.target {}).1 = .matched :=
      (s.matching.matchTarget_eq h.target).trans ht
    cases ha : h.algorithm with
    | none => exact .none
    | some a =>
      refine .some ?_
      unfold PolicyAlgorithm.outcome
      cases hp : allPresent? children with
      | none => exact .refl _
      | some ns =>
        apply a.foldOutcome_respecting
        · intro m hm
          have hm := mem_presentIn hp hm
          exact ih m hm fun hs => hn (.beneath ht hm hs)
        · exact fun winner hw hc => hn (.here ht ha hw hp hc)
  | reference ctx id ih =>
    have hsame (ra : Bool) : (s.respecting ra).resolve id = s.resolve id := rfl
    rw [alone_reference, alone_reference, hsame, hsame]
    cases hr : s.resolve id with
    | none => exact .refl _
    | some m =>
      cases hin : ctx.fresh.enterReference? with
      | none => exact .refl _
      | some inner => exact foundVisit_grows m (ih m inner hr hin fun hs => hn (.behind hr hin hs))

/-- Two evaluations of the same nodes, of which the fold of the second respects abandoned children. -/
theorem alikeUnless_of_grown {s s' : Scene} {a : PolicyAlgorithm} {winner : Effect}
    (ha : a.strategy = .overriding winner) {ns : List Node} {ctx : Context}
    (h : ∀ n ∈ ns, (s.alone ctx n).Grows (s'.alone ctx n)) :
    AlikeUnless winner (CutLate (s'.alone ctx) winner ns)
      (a.combine false (some (ns.map fun n => some (s.childWithin (room ctx) n))) ctx)
      (a.combine true (some (ns.map fun n => some (s'.childWithin (room ctx) n))) ctx) := by
  obtain ⟨hoff, -⟩ := s.combine_resembles a false ns ctx
  obtain ⟨hon, ctx', os, hctx'⟩ := s'.combine_resembles a true ns ctx
  have hlate (hc : CutLate (s'.alone ctx) winner ns) :
      (a.foldOutcome (s.alone ctx) false ns).1 = winner.decision ∧
        a.foldOutcome (s'.alone ctx) true ns =
          (.indeterminate, illFormedNotes ((a.visited (s'.alone ctx) true ns).map (s'.alone ctx))) :=
    ⟨(foldOutcome_of_cutLate ha (hc.of_grown h)).1, (foldOutcome_of_cutLate ha hc).2⟩
  constructor
  case decision =>
    rw [hoff, hon]
    constructor
    · intro heq hc
      obtain ⟨hw, hi⟩ := hlate hc
      rw [hw, hi] at heq
      cases winner <;> simp [Effect.decision] at heq
    · intro hc
      have hgrows := a.foldOutcome_respecting h fun e he => by
        obtain rfl : winner = e := by simpa [ha] using he
        exact hc
      exact hgrows.1.symm
  case interrupted =>
    intro hc
    obtain ⟨hw, hi⟩ := hlate hc
    have hcodes := congrArg (·.statusCodes) hctx'
    rw [hi] at hcodes hon
    exact ⟨hoff.trans hw, hon, hcodes.symm⟩

/-- To respect abandoned children in one fold changes its decision just if that cuts it late. To do so in
all folds at once comes to the same, if none beneath this one is cut late. -/
theorem respecting_alikeUnless (s : Scene) (a : PolicyAlgorithm) (winner : Effect)
    (ha : a.strategy = .overriding winner) (ns : List Node) (ctx : Context) :
    AlikeUnless winner (CutLate (s.alone ctx) winner ns)
        (a.combine false (some (ns.map fun n => some (s.childWithin (room ctx) n))) ctx)
        (a.combine true (some (ns.map fun n => some (s.childWithin (room ctx) n))) ctx) ∧
      ((∀ n ∈ ns, ¬ s.Spoilt ctx n) →
        AlikeUnless winner (CutLate ((s.respecting true).alone ctx) winner ns)
          ((s.respecting false).combineNodes a (some (ns.map some)) ctx)
          ((s.respecting true).combineNodes a (some (ns.map some)) ctx)) := by
  constructor
  · exact alikeUnless_of_grown ha fun n _ => .refl _
  · intro hn
    have hall := alikeUnless_of_grown ha fun n hm => s.alone_grows ctx n (hn n hm)
    simp only [combineNodes, Option.map_some, List.map_map, Function.comp_def]
    exact hall

/-- A policy denies, and one follows that has no algorithm but an obligation. -/
theorem respecting_alikeUnless_cut :
    let s := leadingTo (.reference "p")
    let headless : Policy := { Policy.always "q" .deny ["b"] with algorithm := none }
    let slots := some [some (.policy (.always "p" .deny ["a"])), some (.policy headless)]
    ((s.respecting false).combineNodes .denyOverrides slots {}).1 = .deny ∧
      ((s.respecting true).combineNodes .denyOverrides slots {}).1 = .indeterminate ∧
      ((s.respecting true).combineNodes .denyOverrides slots {}).2.statusCodes = [.syntaxError] := by
  intro s headless slots
  have hall := (s.respecting_alikeUnless .denyOverrides .deny rfl
    [.policy (.always "p" .deny ["a"]), .policy headless] {}).2 (by
      intro n hn hs
      have hn : n = .policy (.always "p" .deny ["a"]) ∨ n = .policy headless := by simpa using hn
      rcases hn with rfl | rfl <;> cases hs)
  exact hall.interrupted (.won (by decide) ⟨_, List.mem_cons_self, by decide, by decide⟩)

/-- A reference is visited even if what it leads to declares nothing, and that may lack an algorithm. -/
theorem respecting_not_alike :
    ¬ ∀ (s : Scene) (ns : List Node) (ctx : Context),
      ((s.respecting true).combineNodes .denyOverrides (some (ns.map some)) ctx).1 =
        ((s.respecting false).combineNodes .denyOverrides (some (ns.map some)) ctx).1 := by
  intro h
  have hsame := h (leadingTo (.policy (.ofId "p"))) [.policy (.always "q" .deny []), .reference "p"] {}
  revert hsame
  decide

end Scene

end Arbiter
