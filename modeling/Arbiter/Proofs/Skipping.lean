import Arbiter.Proofs.Inlining
import Arbiter.Proofs.Reporting

/-! Skipping is safe: a fold that respects abandoned children loses nothing of those it skips.

Beside the evaluation stands one that takes every node for one that may bring obligations, so that no
fold of it skips anybody. It looks up more, and comes to the same. -/

namespace Arbiter

/-- The same child, taken for one that may bring obligations. No fold skips it. -/
def Child.unskipped (c : Child) : Child := { c with carries := true }

def Visit.unskipped (v : Visit) : Visit := { v with carries := true }

theorem Child.ComesTo.unskipped {c : Child} {room : Nat} {v : Visit} (h : c.ComesTo room v) :
    c.unskipped.ComesTo room v.unskipped :=
  ⟨h.declared, rfl, h.run⟩

theorem Visit.Sound.unskipped {v : Visit} (h : v.Sound) : v.unskipped.Sound :=
  ⟨h.fits, h.applicable, h.cut⟩

theorem Visit.unskipped_agree (v : Visit) : v.unskipped.Agree Eq v :=
  ⟨rfl, rfl, rfl, rfl, fun _ _ => rfl⟩

namespace Node

mutual

/-- A node where no fold skips anybody, neither this one's nor those beneath it. The nodes that
references lead to are run by `childOf`. -/
def thorough (s : Scene) (childOf : Node → Child) : Node → Child
  | policy p => ⟨p.obligations, true, p.run s⟩
  | policySet h children => ⟨h.obligations, true, h.run s (thoroughChildren s childOf children)⟩
  | reference id => ⟨[], true, s.follow childOf id⟩

def thoroughChildren (s : Scene) (childOf : Node → Child) :
    Option (List (Option Node)) → Option (List (Option Child))
  | none => none
  | some slots => some (thoroughSlots s childOf slots)

def thoroughSlots (s : Scene) (childOf : Node → Child) : List (Option Node) → List (Option Child)
  | [] => []
  | slot :: slots => thoroughSlot s childOf slot :: thoroughSlots s childOf slots

def thoroughSlot (s : Scene) (childOf : Node → Child) : Option Node → Option Child
  | none => none
  | some n => some (n.thorough s childOf)

end

theorem thoroughChildren_eq_map (s : Scene) (childOf : Node → Child)
    (children : Option (List (Option Node))) :
    thoroughChildren s childOf children = children.map (·.map (·.map (·.thorough s childOf))) := by
  cases children with
  | none => rfl
  | some slots =>
    rw [thoroughChildren]
    induction slots with
    | nil => rfl
    | cons slot slots ih =>
      rw [thoroughSlots, Option.some.inj ih]
      cases slot <;> rfl

end Node

namespace PolicyAlgorithm

variable {f : α → Visit}

/-- A fold that respects abandoned children visits all of them, if it takes all of them for children that
may bring obligations. -/
theorem reached_of_carries (winner : Effect) (won : Bool) {xs : List α} (hc : ∀ x ∈ xs, (f x).carries)
    (hd : ∀ x ∈ xs, (f x).decision ≠ none) : reached f winner true won xs = xs := by
  induction xs generalizing won with
  | nil => rfl
  | cons x xs ih =>
    have hskip : (won && !(f x).carries) = false := by simp [hc x List.mem_cons_self]
    rw [reached_further hskip (hd x List.mem_cons_self) (by simp),
      ih _ (fun y hy => hc y (List.mem_cons_of_mem x hy)) fun y hy => hd y (List.mem_cons_of_mem x hy)]

/-- Such a fold leaves what every child of the overriding effect brought, if there is one. -/
theorem foldOutcome_of_carries {a : PolicyAlgorithm} {winner : Effect}
    (ha : a.strategy = .overriding winner) {xs : List α} (hs : ∀ x ∈ xs, (f x).Sound)
    (hc : ∀ x ∈ xs, (f x).carries) (hd : ∀ x ∈ xs, (f x).decision ≠ none)
    (hw : ∃ x ∈ xs, (f x).decision = some winner.decision) :
    (a.foldOutcome f true xs).1 = winner.decision ∧
      (a.foldOutcome f true xs).2.obligations = broughtBy winner (xs.map f) := by
  have hrank : a.rank? = some (foremost (rankOrder winner)) := by rw [rank?, ha]
  have hvisited : a.visited f true xs = xs := by
    rw [visited, ha]
    exact reached_of_carries winner false hc hd
  have hdecision : (a.foldOutcome f true xs).1 = winner.decision := by
    rw [foldOutcome_decision f a hrank true hd]
    exact foremost_winner ((mem_decisionsOf f).mpr hw)
  have hobligations := foldOutcome_obligations f a true xs hs hdecision
  rw [hvisited] at hobligations
  exact ⟨hdecision, hobligations⟩

end PolicyAlgorithm

namespace Scene

/-- A node that is evaluated without skipping when so many more references may be opened. -/
def thoroughWithin (s : Scene) : Nat → Node → Child
  | 0, n => n.thorough s fun _ => ⟨[], true, Context.referenceFault⟩
  | k + 1, n => n.thorough s (s.thoroughWithin k)

theorem thoroughWithin_policySet (s : Scene) (k : Nat) (h : PolicySetHeader)
    (children : Option (List (Option Node))) :
    s.thoroughWithin k (.policySet h children) =
      ⟨h.obligations, true, h.run s (children.map (·.map (·.map (s.thoroughWithin k))))⟩ := by
  cases k with
  | zero => rw [thoroughWithin, Node.thorough, Node.thoroughChildren_eq_map]; rfl
  | succ k => rw [thoroughWithin, Node.thorough, Node.thoroughChildren_eq_map]; rfl

/-- A child that comes to the same as the node does alone. It may look up more on its way, and a fold
takes it for one that may bring obligations. -/
structure Stands (s : Scene) (ctx : Context) (n : Node) (c : Child) (v : Visit) : Prop where
  comesTo : c.ComesTo (room ctx) v
  sound : v.Sound
  carries : v.carries
  declared : v.declared = n.obligations
  agree : v.Agree Eq (s.alone ctx n)

/-- A fold in which others stand for its nodes that are never skipped. -/
theorem outcome_standing (s : Scene) (a : PolicyAlgorithm) (ra : Bool) {ctx : Context}
    {slots : Option (List (Option Node))} {f : Node → Visit}
    (hc : ∀ n ∈ presentIn slots, (f n).carries)
    (h : ∀ n ∈ presentIn slots, (f n).Agree Eq (s.alone ctx n))
    (he : ∀ n ∈ presentIn slots, s.Equipped n) :
    AgreeTo Eq (a.outcome f ra slots) (a.outcome (s.alone ctx) ra slots) := by
  apply a.outcome_lighter additive_eq
  · intro n hn
    exact h n (PolicyAlgorithm.mem_of_visitedIn f hn)
  · intro n hn
    have hm := PolicyAlgorithm.mem_of_visitedIn f hn
    exact (h n hm).decision ▸ (he n hm).alone_decided ctx
  · intro n hn _
    exact hc n hn
  · intro n _ hcarries e
    exact s.broughtBy_eq_nil ctx hcarries e

theorem foundVisit_congr {n : Node} {v v' : Visit} (h : v.Agree Eq v') (hv : v.declared = n.obligations)
    (hv' : v'.declared = n.obligations) : (foundVisit n v).Agree Eq (foundVisit n v') := by
  refine ⟨h.codes, h.missing, h.decision, h.applicable, ?_⟩
  intro e hd
  have hb := h.brings e hd
  rw [Visit.brings, Visit.brings, hv, hv'] at hb
  have hleft : v.obligations = v'.obligations := List.append_cancel_left hb
  simp [foundVisit, Visit.brings, h.decision, hleft]

theorem follow_astray (s : Scene) (childOf : Node → Child) {id : String} {ctx : Context}
    (h : s.resolve id = none ∨ room ctx = 0) :
    s.follow childOf id (ctx.after {}) = lostVisit.result ctx := by
  have hfault := referenceFault_after ctx
  unfold follow
  cases hn : s.resolve id with
  | none => exact hfault
  | some n =>
    have hroom : ctx.maxReferenceDepth - ctx.referenceDepth = 0 := h.resolve_left (by simp [hn])
    have he : (ctx.after {}).enterReference? = none :=
      if_neg (show ¬ ctx.referenceDepth < ctx.maxReferenceDepth by omega)
    simp only [he]
    exact hfault

theorem alone_astray (s : Scene) {ctx : Context} {id : String}
    (h : s.resolve id = none ∨ room ctx = 0) : s.alone ctx (.reference id) = lostVisit := by
  have hroom : room ctx = ctx.maxReferenceDepth - ctx.referenceDepth := rfl
  rw [alone_reference]
  rcases h with h | h
  · rw [h]
  · have he : ctx.fresh.enterReference? = none :=
      if_neg (show ¬ ctx.referenceDepth < ctx.maxReferenceDepth by omega)
    rw [he]
    cases s.resolve id <;> rfl

theorem thoroughWithin_reference (s : Scene) (k : Nat) (id : String) :
    ∃ childOf, s.thoroughWithin k (.reference id) = ⟨[], true, s.follow childOf id⟩ ∧
      ∀ j, k = j + 1 → childOf = s.thoroughWithin j := by
  cases k with
  | zero => exact ⟨_, rfl, fun j hj => by simp at hj⟩
  | succ k => exact ⟨_, rfl, fun j hj => by rw [Nat.succ.inj hj]⟩

/-- A node evaluated without skipping stands for the node, whatever lies beneath or behind it. -/
theorem exists_stands (s : Scene) (ctx : Context) (n : Node) (he : s.Equipped n) :
    ∃ v, s.Stands ctx n (s.thoroughWithin (room ctx) n) v := by
  induction ctx, n using s.induct with
  | policy ctx p =>
    obtain ⟨hd, -⟩ := Node.screenedVisit_given s.matching p.target
      (p.algorithm.map fun a => a.outcome s.matching p.rules) p.obligations p.carriesObligations
    have hchild : s.thoroughWithin (room ctx) (.policy p) = ⟨p.obligations, true, p.run s⟩ := by
      cases room ctx <;> rfl
    rw [hchild]
    refine ⟨(p.visit s).unskipped, ?_, (p.visit_sound s).unskipped, rfl, hd, ?_⟩
    · exact ⟨hd.symm, rfl, fun c _ => p.run_eq s c⟩
    · rw [alone_policy]
      exact (p.visit s).unskipped_agree
  | policySet ctx h children ih =>
    have hbeneath : ∀ n ∈ presentIn children, ∃ v, s.Stands ctx n (s.thoroughWithin (room ctx) n) v :=
      fun n hn => ih n hn (he.child hn)
    have : Inhabited Visit := ⟨lostVisit⟩
    obtain ⟨f, hf⟩ := exists_of_each hbeneath
    let v := screenedVisit s.matching h.target
      (h.algorithm.map fun a => a.outcome f s.respectAbandoned children) h.obligations true
    obtain ⟨hd, hc⟩ := Node.screenedVisit_given s.matching h.target
      (h.algorithm.map fun a => a.outcome f s.respectAbandoned children) h.obligations true
    refine ⟨v, ?_, ?_, hc, hd, ?_⟩
    · rw [thoroughWithin_policySet]
      refine ⟨hd.symm, hc.symm, fun c hr => h.run_eq s (fun n hn => ?_) true c hr⟩
      exact ⟨(hf n hn).comesTo, (hf n hn).sound⟩
    · apply screenedVisit_sound
      intro d k ha
      obtain ⟨a, -, hdk⟩ := Option.map_eq_some_iff.mp ha
      have hfits := a.outcome_fits s.respectAbandoned children fun xs hxs n hn =>
        (hf n (mem_presentIn hxs hn)).sound
      rwa [hdk] at hfits
    · rw [alone_policySet]
      apply screenedVisit_agree additive_eq
      intro _
      cases h.algorithm with
      | none => exact .none
      | some a =>
        exact .some (s.outcome_standing a s.respectAbandoned (fun n hn => (hf n hn).carries)
          (fun n hn => (hf n hn).agree) fun n hn => he.child hn)
  | reference ctx id ih =>
    obtain ⟨childOf, hchild, hbehind⟩ := s.thoroughWithin_reference (room ctx) id
    rw [hchild]
    by_cases hlost : s.resolve id = none ∨ room ctx = 0
    · refine ⟨lostVisit, ⟨rfl, rfl, fun c hr => ?_⟩, lostVisit_sound, rfl, rfl, ?_⟩
      · exact s.follow_astray childOf (hr ▸ hlost)
      · rw [s.alone_astray hlost]
        exact .refl additive_eq _
    · obtain ⟨hfound, hroom⟩ := not_or.mp hlost
      obtain ⟨n, hn⟩ := Option.ne_none_iff_exists'.mp hfound
      obtain ⟨inner, hin⟩ := @exists_enterReference? ctx.fresh (Nat.pos_of_ne_zero hroom)
      have hless : room inner + 1 = room ctx := @room_of_enterReference? ctx.fresh inner hin
      obtain ⟨v, hv⟩ := ih n inner hn hin (he.behind hn)
      have hcomes : (childOf n).ComesTo (room inner) v := hbehind _ hless.symm ▸ hv.comesTo
      refine ⟨foundVisit n v, ⟨rfl, rfl, fun c hr => ?_⟩, foundVisit_sound n hv.sound, rfl, rfl, ?_⟩
      · exact s.follow_found hn hcomes c (hr.trans hless.symm)
      · rw [s.alone_found hn hin]
        exact foundVisit_congr hv.agree hv.declared rfl

theorem stands_unskipped (s : Scene) (ctx : Context) (n : Node) :
    s.Stands ctx n (s.childWithin (room ctx) n).unskipped (s.alone ctx n).unskipped where
  comesTo := by
    rw [alone_eq_visitWithin]
    exact (s.childWithin_comesTo (room ctx) n).1.unskipped
  sound := (s.alone_sound ctx n).unskipped
  carries := rfl
  declared := rfl
  agree := (s.alone ctx n).unskipped_agree

/-- A fold answers the same where others stand for its nodes, each at its place. -/
theorem combine_standing (s : Scene) (a : PolicyAlgorithm) (ra : Bool) {ns : List Node} {ctx : Context}
    (ho : ctx.obligations = []) (he : ∀ n ∈ ns, s.Equipped n) {child : Node → Child} {f : Node → Visit}
    (h : ∀ n ∈ ns, s.Stands ctx n (child n) (f n)) :
    ∃ b, a.combine ra (some (ns.map fun n => some (child n))) ctx =
        ((a.foldOutcome f ra ns).1, (ctx.setTargetMatched b).after (a.foldOutcome f ra ns).2) ∧
      SameAnswer (a.combine ra (some (ns.map fun n => some (child n))) ctx)
        (a.combine ra (some (ns.map fun n => some (s.childWithin (room ctx) n))) ctx) := by
  have hpresent : presentIn (some (ns.map some)) = ns := by simp [presentIn]
  have hfaithful (xs : List Node) (hxs : allPresent? (some (ns.map some)) = some xs) :
      Faithful (room ctx) child f xs := by
    obtain rfl : ns = xs := Option.some.inj ((allPresent?_map_some ns).symm.trans hxs)
    exact fun n hn => ⟨(h n hn).comesTo, (h n hn).sound⟩
  obtain ⟨b, hstanding⟩ := a.combine_eq ra (some (ns.map some)) ctx hfaithful rfl ho
  obtain ⟨b', hown⟩ := s.combineNodes_eq a ra (some (ns.map some)) ctx ho
  have hagree := @outcome_standing s a ra ctx (some (ns.map some)) f
    (fun n hn => (h n (hpresent ▸ hn)).carries) (fun n hn => (h n (hpresent ▸ hn)).agree)
    fun n hn => he n (hpresent ▸ hn)
  simp only [Option.map_some, List.map_map, Function.comp_def] at hstanding hown
  have hsame := hagree.sameAnswer hstanding hown
  rw [PolicyAlgorithm.outcome, allPresent?_map_some] at hstanding
  exact ⟨b, hstanding, hsame⟩

/-- What carries no obligations leaves none, whatever was evaluated before it. -/
theorem obligations_eq_nil (s : Scene) (ctx : Context) {n : Node} (hn : n.carriesObligations = false) :
    (s.alone ctx n).obligations = [] := by
  have hleaves : Leaves (s.alone ctx n).decision (s.alone ctx n).obligations fun _ => [] :=
    (s.alone_sound ctx n).leaves fun e hd =>
      (List.append_eq_nil_iff.mp (s.brings_eq_nil ctx n hn hd)).2
  by_cases hd : ∃ e : Effect, (s.alone ctx n).decision = some e.decision
  · obtain ⟨e, hd⟩ := hd
    exact hleaves.decided e hd
  · exact hleaves.undecided fun e he => hd ⟨e, he⟩

theorem declared_eq_nil {n : Node} (hn : n.carriesObligations = false) : n.obligations = [] := by
  cases n with
  | policy p => exact (by simpa [Node.carriesObligations, Policy.carriesObligations] using hn :
      p.obligations = [] ∧ _).1
  | policySet h children => exact (by simpa [Node.carries_policySet] using hn : h.obligations = [] ∧ _).1
  | reference id => rfl

/-- It is safe to skip abandoned children in a fold over these nodes, `fold` telling what the fold makes
of the children it is given for them. -/
structure SkipsSafely (s : Scene) (winner : Effect) (ns : List Node) (ctx : Context)
    (fold : (Node → Child) → Decision × Context) : Prop where
  /-- The fold answers as if it skipped nobody, whatever the folds beneath it do. -/
  here : SameAnswer (fold fun n => (s.childWithin (room ctx) n).unskipped)
    (fold (s.childWithin (room ctx)))
  /-- It answers as if nobody was skipped at any level. -/
  everywhere : SameAnswer (fold (s.thoroughWithin (room ctx))) (fold (s.childWithin (room ctx)))
  /-- What any child of the overriding effect brings is left, in the order of the children. -/
  collected : (∃ n ∈ ns, (s.evaluateNode n ctx.fresh).1 = some winner.decision) →
    (fold (s.childWithin (room ctx))).1 = winner.decision ∧
      (fold (s.childWithin (room ctx))).2.obligations =
        (ns.filter fun n => (s.evaluateNode n ctx.fresh).1 = some winner.decision).flatMap fun n =>
          obligationsFor winner n.obligations ++ (s.evaluateNode n ctx.fresh).2.obligations
  /-- Who may be skipped has nothing to bring. -/
  barren : ∀ n : Node, n.carriesObligations = false → n.obligations = [] ∧
    ∀ c : Context, c.obligations = [] → (s.evaluateNode n c.resetStatus).2.obligations = []

theorem skips_safely (s : Scene) (a : PolicyAlgorithm) (winner : Effect)
    (ha : a.strategy = .overriding winner) (ns : List Node) (ctx : Context) (ho : ctx.obligations = [])
    (he : ∀ n ∈ ns, s.Equipped n) :
    s.SkipsSafely winner ns ctx fun child => a.combine true (some (ns.map fun n => some (child n))) ctx := by
  obtain ⟨b, hown, hhere⟩ := s.combine_standing a true ho he fun n _ => s.stands_unskipped ctx n
  constructor
  case here => exact hhere
  case everywhere =>
    have : Inhabited Visit := ⟨lostVisit⟩
    obtain ⟨f, hf⟩ := exists_of_each fun n hn => s.exists_stands ctx n (he n hn)
    obtain ⟨_, -, hthorough⟩ := s.combine_standing a true ho he hf
    exact hthorough
  case collected =>
    intro hw
    obtain ⟨hdecision, hobligations⟩ := PolicyAlgorithm.foldOutcome_of_carries ha
      (fun n _ => (s.alone_sound ctx n).unskipped) (fun _ _ => rfl)
      (fun n hn => (he n hn).alone_decided ctx) hw
    rw [hown] at hhere
    refine ⟨hhere.decision.symm.trans hdecision, hhere.obligations.symm.trans ?_⟩
    rw [broughtBy_map] at hobligations
    exact hobligations
  case barren =>
    intro n hn
    refine ⟨declared_eq_nil hn, fun c hc => ?_⟩
    rw [s.evaluateNode_resetStatus n hc, ← alone_eq_visitWithin]
    exact s.obligations_eq_nil c hn

/-- A policy that permits is abandoned. What denies after it, behind a reference, brings its own. -/
theorem skips_safely_late :
    let s := leadingTo (.policy (.always "p" .deny ["b"]))
    let ns := [.policy (.always "q" .deny ["a"]), .policy (.always "r" .permit []), .reference "p"]
    s.SkipsSafely .deny ns {} (fun child =>
        PolicyAlgorithm.combine .denyOverrides true (some (ns.map fun n => some (child n))) {}) ∧
      (PolicyAlgorithm.combine .denyOverrides true
        (some (ns.map fun n => some (s.childWithin (room {}) n))) {}).2.obligations =
          [⟨"a", .deny, []⟩, ⟨"b", .deny, []⟩] := by
  intro s ns
  refine ⟨s.skips_safely .denyOverrides .deny rfl ns {} rfl ?_, by decide⟩
  intro n hn m hm
  have hn : n = .policy (.always "q" .deny ["a"]) ∨ n = .policy (.always "r" .permit []) ∨
      n = .reference "p" := by simpa [ns] using hn
  rcases hn with rfl | rfl | rfl
  · cases hm
    rfl
  · cases hm
    rfl
  · cases hm with
    | self => rfl
    | reference hid hm =>
      obtain rfl := Option.some.inj hid
      cases hm
      rfl

end Scene

end Arbiter
