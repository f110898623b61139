import Arbiter.Proofs.Agreement
import Arbiter.Proofs.Reach

/-! What it adds to respect abandoned children: obligations, and nothing else.

A fold that respects them goes on after a child of the overriding effect, so at every level other
children are visited. The visits of the two evaluations are related, and every fold keeps the
relation: an Indeterminate fold has visited all its children either way. -/

namespace Arbiter

/-- The same status, and no obligation less. Lookups may differ. -/
structure Notes.Grows (n n' : Notes) : Prop where
  codes : n.codes = n'.codes
  missing : n.missing = n'.missing
  obligations : n.obligations.Sublist n'.obligations

theorem Notes.Grows.refl (n : Notes) : n.Grows n := ⟨rfl, rfl, .refl _⟩

/-- The same decision, on which no obligation less is left. -/
def GrowsTo (o o' : Decision × Notes) : Prop := o.1 = o'.1 ∧ o.2.Grows o'.2

theorem GrowsTo.refl (o : Decision × Notes) : GrowsTo o o := ⟨rfl, .refl _⟩

structure Visit.Grows (v v' : Visit) : Prop where
  notes : v.toNotes.Grows v'.toNotes
  decision : v.decision = v'.decision
  declared : v.declared = v'.declared
  carries : v.carries = v'.carries
  applicable : v.applicable = v'.applicable

namespace Visit.Grows

variable {v v' : Visit}

theorem refl (v : Visit) : v.Grows v := ⟨.refl _, rfl, rfl, rfl, rfl⟩

/-- Grown visits agree, their obligations compared as sublists. -/
theorem agree (h : v.Grows v') : v.Agree List.Sublist v' where
  codes := h.notes.codes
  missing := h.notes.missing
  decision := h.decision
  applicable := h.applicable
  brings e _ := by simpa [Visit.brings, h.declared] using h.notes.obligations

end Visit.Grows

/-- Grown children and additional ones bring no obligation less. -/
theorem broughtBy_grows {f g : α → Visit} {xs ys : List α} (e : Effect) (hxy : xs.Sublist ys)
    (h : ∀ y ∈ ys, (f y).Grows (g y)) : (broughtBy e (xs.map f)).Sublist (broughtBy e (ys.map g)) := by
  induction hxy with
  | slnil => exact .slnil
  | @cons xs ys y _ ih =>
    have hrest := ih fun z hz => h z (List.mem_cons_of_mem y hz)
    rw [List.map_cons, broughtBy_cons]
    exact hrest.trans (List.sublist_append_right ..)
  | @cons_cons xs ys y _ ih =>
    have hrest := ih fun z hz => h z (List.mem_cons_of_mem y hz)
    rw [List.map_cons, List.map_cons, broughtBy_cons, broughtBy_cons e (g y)]
    exact ((h y List.mem_cons_self).agree.broughtBy additive_sublist e).append hrest

namespace PolicyAlgorithm

variable {f g : α → Visit}

theorem reached_congr (winner : Effect) (ra won : Bool) {xs : List α}
    (h : ∀ x ∈ xs, (f x).Grows (g x)) : reached f winner ra won xs = reached g winner ra won xs := by
  induction xs generalizing won with
  | nil => rfl
  | cons x xs ih =>
    have hx := h x List.mem_cons_self
    have hrest (won : Bool) := ih won fun y hy => h y (List.mem_cons_of_mem x hy)
    simp only [reached, hx.carries, hx.decision, hx.agree.decides, hrest]

/-- A fold that respects abandoned children visits all that it else visits, in the same order. -/
theorem reached_respecting (winner : Effect) (won : Bool) (xs : List α) :
    (reached f winner false won xs).Sublist (reached f winner true won xs) := by
  induction xs generalizing won with
  | nil => exact .slnil
  | cons x xs ih =>
    simp only [reached]
    split
    · exact ih won
    · by_cases hn : (f x).decision = none
      · simp [hn]
      · cases hw : (f x).decides winner.decision with
        | true => simp [hn]
        | false => simpa [hn] using ih won

theorem searched_congr (found : Bool) {xs : List α} (h : ∀ x ∈ xs, (f x).Grows (g x)) :
    searched f found xs = searched g found xs := by
  induction xs generalizing found with
  | nil => rfl
  | cons x xs ih =>
    have hx := h x List.mem_cons_self
    have hrest (found : Bool) := ih found fun y hy => h y (List.mem_cons_of_mem x hy)
    simp only [searched, hx.decision, hx.applicable, hx.agree.decides, hrest]

theorem visited_congr (a : PolicyAlgorithm) (ra : Bool) {xs : List α}
    (h : ∀ x ∈ xs, (f x).Grows (g x)) : a.visited f ra xs = a.visited g ra xs := by
  unfold visited
  cases a.strategy with
  | overriding winner => exact reached_congr winner ra false h
  | firstApplicable =>
    exact upTo_congr fun x hx => by rw [(h x ((upTo_sublist _ xs).subset hx)).agree.decides]
  | onlyOneApplicable => exact searched_congr false h

/-- A fold that respects abandoned children visits no child less. -/
theorem visited_respecting (a : PolicyAlgorithm) {xs : List α} (h : ∀ x ∈ xs, (f x).Grows (g x)) :
    (a.visited f false xs).Sublist (a.visited g true xs) := by
  rw [a.visited_congr false h]
  unfold visited
  cases a.strategy with
  | overriding winner => exact reached_respecting winner false xs
  | firstApplicable | onlyOneApplicable => exact .refl _

/-- A fold that is not cut short decides alike whether it respects abandoned children or not, and what it
leaves grows. -/
theorem foldOutcome_grows (a : PolicyAlgorithm) {xs : List α} (h : ∀ x ∈ xs, (f x).Grows (g x))
    (hd : ∀ x ∈ a.visited g true xs, (g x).decision ≠ none) :
    GrowsTo (a.foldOutcome f false xs) (a.foldOutcome g true xs) := by
  have hall := a.visited_sublist (f := g) true xs
  have hmore := a.visited_respecting h
  obtain ⟨hfst, hsnd⟩ := a.foldOutcome_agree additive_sublist
    (fun x hx => (h x (hall.subset (hmore.subset hx))).agree)
    (fun x hx => (h x (hall.subset (hmore.subset hx))).decision ▸ hd x (hmore.subset hx))
    fun winner hs => by
      simp only [visited, hs] at hd hall hmore
      exact ⟨hd, broughtBy_grows winner hmore fun x hx => h x (hall.subset hx)⟩
  exact ⟨hfst, hsnd.codes, hsnd.missing, hsnd.obligations⟩

theorem outcome_grows (a : PolicyAlgorithm) {slots : Option (List (Option α))}
    (h : ∀ x ∈ presentIn slots, (f x).Grows (g x))
    (hd : ∀ x ∈ presentIn slots, (f x).decision ≠ none) :
    GrowsTo (a.outcome f false slots) (a.outcome g true slots) := by
  unfold outcome
  cases hp : allPresent? slots with
  | none => exact .refl _
  | some xs =>
    have hxs : ∀ x ∈ xs, (f x).Grows (g x) := fun x hx => h x (mem_presentIn hp hx)
    refine a.foldOutcome_grows hxs fun x hx => ?_
    have hm := (a.visited_sublist true xs).subset hx
    exact (hxs x hm).decision ▸ hd x (mem_presentIn hp hm)

end PolicyAlgorithm

namespace Scene

/-- The scene in which abandoned children are respected at every level, or at none. -/
def respecting (s : Scene) (ra : Bool) : Scene := { s with respectAbandoned := ra }

theorem Reaches.of_respecting {s : Scene} {ra : Bool} {n m : Node} (h : (s.respecting ra).Reaches n m) :
    s.Reaches n m := by
  induction h with
  | self n => exact .self n
  | child hn _ ih => exact .child hn ih
  | reference hn _ ih => exact .reference hn ih

theorem Equipped.respecting {s : Scene} {n : Node} (he : s.Equipped n) (ra : Bool) :
    (s.respecting ra).Equipped n :=
  fun m hm => he m hm.of_respecting

theorem screenedVisit_grows (m : Matching) (target : Option Condition)
    {out out' : Option (Decision × Notes)}
    (ho : (m.targetOutcome target).1 = .matched → out.Rel GrowsTo out') (declared : List Obligation)
    (carries : Bool) :
    (screenedVisit m target out declared carries).Grows
      (screenedVisit m target out' declared carries) := by
  unfold screenedVisit
  generalize m.targetOutcome target = t at ho ⊢
  rcases t with ⟨t, n⟩
  cases t with
  | unmatched => exact .refl _
  | indeterminate => exact .refl _
  | matched =>
    cases ho rfl with
    | none => exact .refl _
    | some h => exact ⟨⟨h.2.codes, h.2.missing, h.2.obligations⟩, congrArg some h.1, rfl, rfl, rfl⟩

theorem foundVisit_grows (n : Node) {v v' : Visit} (h : v.Grows v') :
    (foundVisit n v).Grows (foundVisit n v') := by
  refine ⟨⟨h.notes.codes, h.notes.missing, ?_⟩, h.decision, rfl, rfl, h.applicable⟩
  simpa [foundVisit, h.decision] using h.notes.obligations

/-- One level of references: if what they lead to grows, so does every node. -/
theorem visit_grows (s : Scene) {off on : Option (Node → Visit)}
    (hv : off.Rel (fun f g => ∀ n, s.Equipped n → (f n).Grows (g n)) on)
    (hd : ∀ f ∈ off, ∀ n, (s.respecting false).Equipped n → (f n).decision ≠ none) {n : Node}
    (he : s.Equipped n) :
    (n.visit (s.respecting false) off).Grows (n.visit (s.respecting true) on) := by
  induction n using Node.induct with
  | hp p => exact .refl _
  | hs h children ih =>
    rw [Node.visit_policySet, Node.visit_policySet]
    apply screenedVisit_grows
    intro _
    cases h.algorithm with
    | none => exact .none
    | some a =>
      refine .some (a.outcome_grows (fun n hn => ih n hn (he.child hn)) fun n hn => ?_)
      exact (s.respecting false).visit_decided hd ((he.child hn).respecting false)
  | hr id =>
    show (followedVisit (s.respecting false) off id).Grows (followedVisit (s.respecting true) on id)
    have hsame (ra : Bool) : (s.respecting ra).resolve id = s.resolve id := rfl
    simp only [followedVisit, hsame]
    cases hn : s.resolve id with
    | none => exact .refl _
    | some n =>
      cases hv with
      | none => exact .refl _
      | some h => exact foundVisit_grows n (h n (he.behind hn))

theorem visitWithin_grows (s : Scene) (k : Nat) {n : Node} (he : s.Equipped n) :
    ((s.respecting false).visitWithin k n).Grows ((s.respecting true).visitWithin k n) := by
  induction k generalizing n with
  | zero => exact s.visit_grows .none (by simp) he
  | succ k ih =>
    refine s.visit_grows (.some fun n hn => ih hn) ?_ he
    rintro f hf n hn
    obtain rfl : (s.respecting false).visitWithin k = f := by simpa using hf
    exact hn.decided k

/-- What an evaluation came to while no abandoned child was respected, and while all of them were. -/
structure OnlyAdds (off on : Decision × Context) : Prop where
  decision : off.1 = on.1
  statusCode : off.2.statusCode = on.2.statusCode
  statusCodes : off.2.statusCodes = on.2.statusCodes
  missing : off.2.missing = on.2.missing
  obligations : off.2.obligations.Sublist on.2.obligations

/-- To respect abandoned children at every level adds obligations, and changes nothing else, if all that
may be reached has an algorithm. -/
theorem respecting_onlyAdds (s : Scene) (a : PolicyAlgorithm) (slots : Option (List (Option Node)))
    (ctx : Context) (ho : ctx.obligations = []) (he : ∀ n ∈ presentIn slots, s.Equipped n) :
    OnlyAdds ((s.respecting false).combineNodes a slots ctx)
      ((s.respecting true).combineNodes a slots ctx) := by
  obtain ⟨b, hoff⟩ := (s.respecting false).combineNodes_eq a false slots ctx ho
  obtain ⟨b', hon⟩ := (s.respecting true).combineNodes_eq a true slots ctx ho
  have hgrows : GrowsTo (a.outcome ((s.respecting false).alone ctx) false slots)
      (a.outcome ((s.respecting true).alone ctx) true slots) := by
    rw [alone_eq_visitWithin, alone_eq_visitWithin]
    exact a.outcome_grows (fun n hn => s.visitWithin_grows (room ctx) (he n hn)) fun n hn =>
      ((he n hn).respecting false).decided (room ctx)
  obtain ⟨hd, hn⟩ := hgrows
  rw [show (s.respecting false).combineNodes a slots ctx = _ from hoff,
    show (s.respecting true).combineNodes a slots ctx = _ from hon]
  exact ⟨hd, congrArg (·.headD .ok) hn.codes, hn.codes, hn.missing, hn.obligations⟩

/-- The first of two policies that deny abandons the other, which stands behind a reference. -/
theorem respecting_onlyAdds_denied :
    let s := leadingTo (.policy (.always "p" .deny ["b"]))
    let slots := some [some (.policy (.always "q" .deny ["a"])), some (.reference "p")]
    OnlyAdds ((s.respecting false).combineNodes .denyOverrides slots {})
        ((s.respecting true).combineNodes .denyOverrides slots {}) ∧
      ((s.respecting false).combineNodes .denyOverrides slots {}).2.obligations = [⟨"a", .deny, []⟩] ∧
      ((s.respecting true).combineNodes .denyOverrides slots {}).2.obligations =
        [⟨"a", .deny, []⟩, ⟨"b", .deny, []⟩] := by
  intro s slots
  refine ⟨s.respecting_onlyAdds .denyOverrides slots {} rfl ?_, by decide, by decide⟩
  intro n hn m hm
  have hn : n = .policy (.always "q" .deny ["a"]) ∨ n = .reference "p" := by
    simpa [slots, presentIn] using hn
  rcases hn with rfl | rfl
  · cases hm
    rfl
  · cases hm with
    | self => rfl
    | reference hid hm =>
      obtain rfl := Option.some.inj hid
      cases hm
      rfl

end Scene

end Arbiter
