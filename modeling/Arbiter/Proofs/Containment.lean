import Arbiter.Proofs.Ending
import Arbiter.Proofs.Recursion
import Arbiter.Proofs.Unburdened

namespace Arbiter

/-- A list of slots that is absent, or of which one is empty. -/
def IllFormed (slots : Option (List (Option α))) : Prop := ∀ xs, slots = some xs → none ∈ xs

theorem allPresent?_eq_none_iff {slots : Option (List (Option α))} :
    allPresent? slots = none ↔ IllFormed slots := by
  constructor
  · rintro h xs rfl
    simp only [allPresent?] at h
    induction xs with
    | nil => simp at h
    | cons slot xs ih =>
      cases slot with
      | none => exact List.mem_cons_self
      | some x =>
        cases hm : xs.mapM id with
        | none => exact List.mem_cons_of_mem _ (ih hm)
        | some ys => simp [hm] at h
  · intro h
    cases hp : allPresent? slots with
    | none => rfl
    | some xs =>
      have hmem := h (xs.map some) (allPresent?_eq_some hp)
      simp at hmem

theorem IllFormed.map {slots : Option (List (Option α))} (h : IllFormed slots) (g : α → β) :
    IllFormed (slots.map (·.map (·.map g))) := by
  rw [← allPresent?_eq_none_iff, allPresent?_map, allPresent?_eq_none_iff.mpr h]
  rfl

namespace Context

/-- The context once a fold has ended with a syntax error, after these lookups. Nothing else is left of
what was decided, gathered or reported before. -/
def refused (ctx : Context) (matched : Bool) (ds : List Designator) : Context :=
  { ctx with
    statusCode := .syntaxError
    statusCodes := [.syntaxError]
    missing := []
    obligations := []
    targetMatched := matched
    lookups := ctx.lookups ++ ds }

theorem illFormed_refused (ctx : Context) :
    ctx.illFormed = (.indeterminate, ctx.refused ctx.targetMatched []) := by
  rw [illFormed_eq]
  rfl

/-- The same context after other lookups, with so many references open and at most `limit` of them. -/
def Untold (limit depth : Nat) (ctx ctx' : Context) : Prop :=
  (∃ ds, ctx' = { ctx with lookups := ds }) ∧ ctx.maxReferenceDepth = limit ∧ ctx.referenceDepth = depth

/-- Nobody looks at what was looked up before. -/
theorem stable_untold (limit depth : Nat) : Stable (Untold limit depth) Eq where
  statusCodes := by rintro _ _ ⟨⟨_, rfl⟩, -⟩; rfl
  missing := by rintro _ _ ⟨⟨_, rfl⟩, -⟩; rfl
  targetMatched := by rintro _ _ ⟨⟨_, rfl⟩, -⟩; rfl
  looked := by rintro _ _ ⟨⟨ds, rfl⟩, h⟩ _; exact ⟨⟨_, rfl⟩, h⟩
  resetStatus := by rintro _ _ ⟨⟨ds, rfl⟩, h⟩; exact ⟨⟨ds, rfl⟩, h⟩
  report := by
    rintro ctx _ ⟨⟨ds, rfl⟩, hl, hd⟩ c
    obtain ⟨hl', hd'⟩ := ctx.report_depth c
    refine ⟨⟨ds, ?_⟩, hl'.trans hl, hd'.trans hd⟩
    unfold report
    split <;> rfl
  setMissing := by rintro _ _ ⟨⟨ds, rfl⟩, h⟩ _; exact ⟨⟨ds, rfl⟩, h⟩
  setTargetMatched := by rintro _ _ ⟨⟨ds, rfl⟩, h⟩ _; exact ⟨⟨ds, rfl⟩, h⟩
  clearObligations := by rintro _ _ ⟨⟨ds, rfl⟩, h⟩; exact ⟨⟨ds, rfl⟩, h⟩
  addObligations := by rintro _ _ ⟨⟨ds, rfl⟩, h⟩ _ _; exact ⟨⟨ds, rfl⟩, h⟩
  nil := rfl
  add := by
    rintro ctx _ h _ ⟨⟨ds, rfl⟩, -⟩ rfl os d
    cases d <;> rfl
  finish := by
    rintro ctx _ h _ ⟨⟨ds, rfl⟩, hl, hd⟩ rfl d
    obtain ⟨hl', hd'⟩ := finish_depth h d ctx
    exact ⟨⟨ds, by cases d <;> rfl⟩, hl'.trans hl, hd'.trans hd⟩

theorem enters_untold (limit depth : Nat) : Enters (Untold limit depth) (Untold limit (depth + 1)) where
  enter := by
    rintro ctx _ ⟨⟨ds, rfl⟩, hl, hd⟩
    unfold enterReference?
    dsimp only
    split
    · exact .some ⟨⟨ds, rfl⟩, hl, congrArg (· + 1) hd⟩
    · exact .none
  leave := by
    rintro ctx _ ⟨⟨ds, rfl⟩, hl, hd⟩
    exact ⟨⟨ds, rfl⟩, hl, by simp [leaveReference, hd]⟩

end Context

open Context (Untold stable_untold enters_untold)

/-- The same child, were its target to match and its evaluation to end with a syntax error. -/
def Child.refusing (c : Child) : Child :=
  { c with run := fun ctx => (some .indeterminate, ctx.refused true []) }

namespace Scene

/-- A node that is reached, but has no algorithm. -/
inductive CutShort (s : Scene) : Context → Node → Prop
  | policy {ctx : Context} {p : Policy} (ha : p.algorithm = none)
      (ht : (s.matching.matchTarget p.target {}).1 = .matched) : CutShort s ctx (.policy p)
  | policySet {ctx : Context} {h : PolicySetHeader} {children : Option (List (Option Node))}
      (ha : h.algorithm = none) (ht : (s.matching.matchTarget h.target {}).1 = .matched) :
      CutShort s ctx (.policySet h children)
  | behind {ctx inner : Context} {id : String} {n : Node} (hn : s.resolve id = some n)
      (hin : ctx.fresh.enterReference? = some inner) (hc : CutShort s inner n) :
      CutShort s ctx (.reference id)

theorem screenedVisit_eq_none_iff {m : Matching} {target : Option Condition}
    {out : Option (Decision × Notes)} {declared : List Obligation} {carries : Bool} :
    (screenedVisit m target out declared carries).decision = none ↔
      out = none ∧ (m.matchTarget target {}).1 = .matched := by
  rw [m.matchTarget_eq target]
  unfold screenedVisit
  rcases m.targetOutcome target with ⟨t, n⟩
  cases t with
  | unmatched => simp
  | indeterminate => simp
  | matched => cases out <;> simp

theorem alone_eq_none_iff (s : Scene) (ctx : Context) (n : Node) :
    (s.alone ctx n).decision = none ↔ s.CutShort ctx n := by
  induction ctx, n using s.induct with
  | policy ctx p =>
    rw [alone_policy, Policy.visit, screenedVisit_eq_none_iff, Option.map_eq_none_iff]
    constructor
    · rintro ⟨ha, ht⟩
      exact .policy ha ht
    · rintro ⟨ha, ht⟩
      exact ⟨ha, ht⟩
  | policySet ctx h children ih =>
    rw [alone_policySet, screenedVisit_eq_none_iff, Option.map_eq_none_iff]
    constructor
    · rintro ⟨ha, ht⟩
      exact .policySet ha ht
    · intro hc
      cases hc with
      | policySet ha ht => exact ⟨ha, ht⟩
  | reference ctx id ih =>
    constructor
    · intro hd
      rw [alone_reference] at hd
      split at hd
      · rename_i n inner hn hin
        exact .behind hn hin ((ih n inner hn hin).mp hd)
      · simp [lostVisit] at hd
    · intro hc
      cases hc with
      | behind hn hin hc =>
        rw [s.alone_found hn hin]
        exact (ih _ _ hn hin).mpr hc

/-- A fold that reaches a child cut short leaves nothing of what came before it. -/
theorem combine_cut (s : Scene) (a : PolicyAlgorithm) (ra : Bool) {ns : List Node} {ctx : Context}
    (hcut : ∃ n ∈ a.visited (s.alone ctx) ra ns, (s.alone ctx n).decision = none) :
    ∃ b, a.combine ra (some (ns.map fun n => some (s.childWithin (room ctx) n))) ctx =
      (.indeterminate,
        ctx.refused b (lookupsOf ((a.visited (s.alone ctx) ra ns).map (s.alone ctx)))) := by
  obtain ⟨hfst, b, os, hsnd⟩ := s.combineNodes_resembles a ra (some (ns.map some)) ctx
  simp only [PolicyAlgorithm.outcome, allPresent?_map_some, a.foldOutcome_cut (s.alone ctx) ra hcut,
    Option.map_some, List.map_map, Function.comp_def] at hfst hsnd
  have hunbound := (a.combine_closed ra _ ctx).unbound hfst
  generalize a.combine ra _ ctx = out at hfst hsnd hunbound
  refine ⟨b, Prod.ext hfst ?_⟩
  let notes := illFormedNotes ((a.visited (s.alone ctx) ra ns).map (s.alone ctx))
  calc out.2
      = { out.2 with obligations := [] } := by rw [← hunbound]
    _ = { ({ out.2 with obligations := os } : Context) with obligations := [] } := rfl
    _ = { (ctx.clearObligations.setTargetMatched b).after notes with obligations := [] } := by rw [hsnd]
    _ = ctx.refused b (lookupsOf ((a.visited (s.alone ctx) ra ns).map (s.alone ctx))) := rfl

/-- A node in whose evaluation a fold ends with a syntax error. Of all folds beneath and behind it that
is only the one whose decision is its own. -/
inductive Breached (s : Scene) : Context → Node → Prop
  | rules {ctx : Context} {p : Policy} {a : RuleAlgorithm} (ha : p.algorithm = some a)
      (ht : (s.matching.matchTarget p.target {}).1 = .matched) (hi : IllFormed p.rules) :
      Breached s ctx (.policy p)
  | children {ctx : Context} {h : PolicySetHeader} {children : Option (List (Option Node))}
      {a : PolicyAlgorithm} (ha : h.algorithm = some a)
      (ht : (s.matching.matchTarget h.target {}).1 = .matched) (hi : IllFormed children) :
      Breached s ctx (.policySet h children)
  | child {ctx : Context} {h : PolicySetHeader} {a : PolicyAlgorithm} {ns : List Node} {n : Node}
      (ha : h.algorithm = some a) (ht : (s.matching.matchTarget h.target {}).1 = .matched)
      (hn : n ∈ a.visited (s.alone ctx) s.respectAbandoned ns) (hc : s.CutShort ctx n) :
      Breached s ctx (.policySet h (some (ns.map some)))
  | behind {ctx inner : Context} {id : String} {n : Node} (hn : s.resolve id = some n)
      (hin : ctx.fresh.enterReference? = some inner) (hb : Breached s inner n) :
      Breached s ctx (.reference id)

theorem alone_congr (s : Scene) {ctx ctx' : Context} (h : ctx'.fresh = ctx.fresh) :
    s.alone ctx' = s.alone ctx := by
  funext n
  simp only [alone, h]

theorem matchTarget_matched {m : Matching} {target : Option Condition}
    (h : (m.matchTarget target {}).1 = .matched) (ctx : Context) :
    ∃ ds, m.matchTarget target ctx = (.matched, { ctx with lookups := ctx.lookups ++ ds }) := by
  cases target with
  | none => exact ⟨[], by simp [Matching.matchTarget]⟩
  | some c =>
    simp only [Matching.matchTarget] at h ⊢
    cases hm : m.target with
    | always r =>
      obtain rfl : r = .matched := by simpa [hm, Matcher.run] using h
      exact ⟨[], by simp [Matcher.run]⟩
    | byValue =>
      refine ⟨(c.evaluate m.source).lookups, ?_⟩
      simp only [hm, Matcher.run, Context.record] at h ⊢
      cases hr : (c.evaluate m.source).result with
      | ok b => simpa [hr] using h
      | error f =>
        rw [hr] at h
        dsimp only at h
        split at h <;> cases h

/-- A node whose target matches is refused if the fold in it is. -/
theorem screened_refused {m : Matching} {target : Option Condition}
    {rest : Context → Option Decision × Context} {ctx : Context}
    (ht : (m.matchTarget target {}).1 = .matched)
    (hr : ∀ c : Context, c.fresh = ctx.fresh → ∃ b ds, rest c = (some .indeterminate, c.refused b ds)) :
    ∃ ds, screened m target rest ctx = (some .indeterminate, ctx.refused true ds) := by
  obtain ⟨ds, hm⟩ := matchTarget_matched ht ctx
  obtain ⟨b, es, hrest⟩ := hr { ctx with lookups := ctx.lookups ++ ds } rfl
  refine ⟨ds ++ es, ?_⟩
  simp only [screened, hm, hrest]
  simp [Context.refused, Context.setTargetMatched]

theorem Breached.refused {s : Scene} {ctx : Context} {n : Node} (h : s.Breached ctx n) {c : Context}
    (hc : c.fresh = ctx.fresh) :
    ∃ ds, s.evaluateNode n c = (some .indeterminate, c.refused true ds) := by
  induction h generalizing c with
  | @rules ctx p a ha ht hi =>
    have hself : s.expand s.evaluateNode (.policy p) c = s.evaluateNode (.policy p) c :=
      s.expand_eq fun _ _ => rfl
    rw [← hself]
    apply screened_refused ht
    intro c' _
    refine ⟨c'.targetMatched, [], ?_⟩
    simp only [decideBy, ha, RuleAlgorithm.combine, allPresent?_eq_none_iff.mpr hi]
    rw [c'.illFormed_refused]
  | @children ctx h children a ha ht hi =>
    rw [evaluateNode_policySet]
    apply screened_refused ht
    intro c' _
    refine ⟨c'.targetMatched, [], ?_⟩
    have hnone := allPresent?_eq_none_iff.mpr (hi.map (s.childWithin (room c)))
    simp only [decideBy, ha, PolicyAlgorithm.combine, hnone]
    rw [c'.illFormed_refused]
  | @child ctx h a ns n ha ht hn hcut =>
    rw [evaluateNode_policySet]
    apply screened_refused ht
    intro c' hc'
    have hfresh : c'.fresh = ctx.fresh := hc'.trans hc
    have hroom : room c' = room c := by
      show room c'.fresh = room c.fresh
      rw [hc']
    rw [← s.alone_congr hfresh] at hn
    have hnone := (s.alone_eq_none_iff ctx n).mpr hcut
    rw [← s.alone_congr hfresh] at hnone
    obtain ⟨b, hb⟩ := s.combine_cut a s.respectAbandoned ⟨n, hn, hnone⟩
    rw [hroom] at hb
    let vs := (a.visited (s.alone c') s.respectAbandoned ns).map (s.alone c')
    refine ⟨b, lookupsOf vs, ?_⟩
    simp only [decideBy, ha, Option.map_some, List.map_map, Function.comp_def, hb, vs]
  | @behind ctx inner id n hn hin hb ih =>
    obtain ⟨hlt, rfl⟩ := Context.enterReference?_eq_some hin
    obtain ⟨hlimit, hdepth⟩ : c.maxReferenceDepth = ctx.maxReferenceDepth ∧
        c.referenceDepth = ctx.referenceDepth := by simpa [Context.fresh] using hc
    let entered : Context := { c with referenceDepth := c.referenceDepth + 1 }
    have he : c.enterReference? = some entered := if_pos (by rw [hlimit, hdepth]; exact hlt)
    obtain ⟨ds, hrun⟩ := @ih entered (by simp [entered, Context.fresh, hlimit, hdepth])
    have hself : s.expand s.evaluateNode (.reference id) c = s.evaluateNode (.reference id) c :=
      s.expand_eq fun _ _ => rfl
    refine ⟨ds, ?_⟩
    rw [← hself]
    simp only [expand, follow, hn, he, answering, hrun, Decision.effect?]
    rfl

/-- To the fold that it is a child of, such a node is like one that is Indeterminate on its own account. -/
theorem Breached.like_refusing {s : Scene} {ctx : Context} {n : Node} (h : s.Breached ctx n) :
    (s.childWithin (room ctx) n).Like (Untold ctx.maxReferenceDepth ctx.referenceDepth)
      (s.childWithin (room ctx) n).refusing where
  declared := rfl
  carries := rfl
  run := by
    rintro c _ ⟨⟨es, rfl⟩, hlimit, hdepth⟩
    have hfresh : c.fresh = ctx.fresh := by simp [Context.fresh, hlimit, hdepth]
    have hroom : room c = room ctx := by
      show room c.fresh = room ctx.fresh
      rw [hfresh]
    obtain ⟨ds, hrun⟩ := h.refused hfresh
    rw [evaluateNode, hroom] at hrun
    rw [hrun]
    exact ⟨rfl, ⟨_, rfl⟩, hlimit, hdepth⟩

theorem combine_like {R : Context → Context → Prop} {H : Harvest → Harvest → Prop} (hs : Stable R H)
    (a : PolicyAlgorithm) (ra : Bool) {before after : List Child} {c c' : Child} (hc : c.Like R c')
    (hb : ∀ d ∈ before, d.Like R d) (ha : ∀ d ∈ after, d.Like R d) :
    Keeps R (a.combine ra (some ((before ++ c :: after).map some)))
      (a.combine ra (some ((before ++ c' :: after).map some))) := by
  let pairs := before.map (fun d => (d, d)) ++ (c, c') :: after.map (fun d => (d, d))
  have hpairs : ∀ p ∈ presentIn (some (pairs.map some)), p.1.Like R p.2 := by
    intro p hp
    have hp : p ∈ pairs := by simpa [presentIn] using hp
    rcases List.mem_append.mp hp with hp | hp
    · obtain ⟨d, hd, rfl⟩ := List.mem_map.mp hp
      exact hb d hd
    · rcases List.mem_cons.mp hp with rfl | hp
      · exact hc
      · obtain ⟨d, hd, rfl⟩ := List.mem_map.mp hp
        exact ha d hd
  have hkeeps := a.combine_keeps hs ra (some (pairs.map some)) hpairs
  simpa [pairs, Function.comp_def] using hkeeps

/-- What ill-formed input to a fold does, and what it does not. -/
structure Contained (s : Scene) : Prop where
  /-- Rules that are not all there are not even looked at. -/
  rules : ∀ (a : RuleAlgorithm) (slots : Option (List (Option Rule))) (ctx : Context), IllFormed slots →
    s.combineRules a slots ctx = (.indeterminate, ctx.refused ctx.targetMatched [])
  /-- Nor are children run, whatever they are. -/
  children : ∀ (a : PolicyAlgorithm) (ra : Bool) (slots : Option (List (Option Child))) (ctx : Context),
    IllFormed slots → a.combine ra slots ctx = (.indeterminate, ctx.refused ctx.targetMatched [])
  /-- A child comes to no decision just if it has no algorithm where its target matches, or stands for
  one that has none. -/
  short : ∀ (ctx : Context) (n : Node),
    (s.evaluateNode n ctx.fresh).1 = none ↔ s.CutShort ctx n
  /-- A fold that reaches such a child drops what it has, and only what was looked up is told. -/
  cut : ∀ (a : PolicyAlgorithm) (ra : Bool) (ns : List Node) (ctx : Context),
    (∃ n ∈ a.visited (s.alone ctx) ra ns, s.CutShort ctx n) →
      ∃ b, a.combine ra (some (ns.map fun n => some (s.childWithin (room ctx) n))) ctx =
        (.indeterminate,
          ctx.refused b (lookupsOf ((a.visited (s.alone ctx) ra ns).map (s.alone ctx))))
  /-- The node whose fold it was decides Indeterminate, and its target matched. -/
  nested : ∀ (ctx : Context) (n : Node), s.Breached ctx n →
    ∃ ds, s.evaluateNode n ctx = (some .indeterminate, ctx.refused true ds)
  /-- The fold that it is a child of comes to what it would, were the child Indeterminate for any other
  reason. Lookups aside, nothing of what went on in the child is noticed. -/
  parent : ∀ (a : PolicyAlgorithm) (ra : Bool) (before after : List Node) (n : Node) (ctx : Context),
    s.Breached ctx n →
      let child := s.childWithin (room ctx)
      let fold (c : Child) :=
        a.combine ra (some ((before.map child ++ c :: after.map child).map some)) ctx
      (fold (child n)).1 = (fold (child n).refusing).1 ∧
        ∃ ds, (fold (child n).refusing).2 = { (fold (child n)).2 with lookups := ds }

theorem violations_contained (s : Scene) : s.Contained where
  rules a slots ctx h := by
    simp only [combineRules, RuleAlgorithm.combine, allPresent?_eq_none_iff.mpr h]
    exact ctx.illFormed_refused
  children a ra slots ctx h := by
    simp only [PolicyAlgorithm.combine, allPresent?_eq_none_iff.mpr h]
    exact ctx.illFormed_refused
  short := s.alone_eq_none_iff
  cut a ra ns ctx h := by
    obtain ⟨n, hn, hc⟩ := h
    exact s.combine_cut a ra ⟨n, hn, (s.alone_eq_none_iff ctx n).mpr hc⟩
  nested ctx n h := h.refused rfl
  parent a ra before after n ctx h := by
    have hs := stable_untold ctx.maxReferenceDepth ctx.referenceDepth
    have hself : ∀ (ms : List Node), ∀ d ∈ ms.map (s.childWithin (room ctx)),
        d.Like (Untold ctx.maxReferenceDepth ctx.referenceDepth) d := by
      intro ms d hd
      obtain ⟨m, -, rfl⟩ := List.mem_map.mp hd
      exact s.childWithin_like (stable_untold _) (enters_untold _) (room ctx) m _
    obtain ⟨hfst, hsnd, -⟩ := combine_like hs a ra h.like_refusing (hself before) (hself after) ctx ctx
      ⟨⟨ctx.lookups, rfl⟩, rfl, rfl⟩
    exact ⟨hfst, hsnd⟩

/-- Behind a reference a policy has no algorithm, after one that permits. The policy set that holds both
fails, and the list that this is in goes on to a policy that denies. -/
theorem violations_contained_nested :
    let s := leadingTo (.policy (.ofId "p"))
    let set : Node := .policySet { id := "set", algorithm := some .denyOverrides }
      (some [some (.policy (.always "q" .permit ["a"])), some (.reference "p")])
    (∃ ds, s.evaluateNode set {} = (some .indeterminate, Context.refused {} true ds)) ∧
      (s.combineNodes .denyOverrides (some [some set, some (.policy (.always "r" .deny ["b"]))]) {}).1 =
        .deny := by
  intro s set
  have hcut : s.CutShort {} (.reference "p") := .behind rfl rfl (.policy rfl rfl)
  have hbreached : s.Breached {} set :=
    @Breached.child s {} _ .denyOverrides [.policy (.always "q" .permit ["a"]), .reference "p"] _ rfl rfl
      (List.mem_cons_of_mem _ List.mem_cons_self) hcut
  exact ⟨s.violations_contained.nested {} set hbreached, by decide⟩

end Scene

end Arbiter
