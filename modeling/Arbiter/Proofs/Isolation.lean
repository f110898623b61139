import Arbiter.Proofs.Tree

/-! Isolation: what was evaluated before has no part in what comes after.

A context is handed on with the status, the missing attributes and the target flag that the last
evaluation left. Folds and children come to the same whatever these are. -/

namespace Arbiter

namespace Context

/-- Contexts that only what was evaluated on them before tells apart: as many references are open and
may be, and there are no obligations. -/
structure Peers (ctx ctx' : Context) : Prop where
  maxReferenceDepth : ctx.maxReferenceDepth = ctx'.maxReferenceDepth
  referenceDepth : ctx.referenceDepth = ctx'.referenceDepth
  obligations : ctx.obligations = []
  obligations' : ctx'.obligations = []

theorem Peers.room_eq {ctx ctx' : Context} (h : ctx.Peers ctx') : Scene.room ctx = Scene.room ctx' := by
  rw [Scene.room, Scene.room, h.maxReferenceDepth, h.referenceDepth]

end Context

/-- What is evaluated comes to the same from either context, and asks the attribute finder for the
same. -/
structure SameOutcome (f : Context → β × Context) (ctx ctx' : Context) : Prop where
  result : (f ctx).1 = (f ctx').1
  statusCode : (f ctx).2.statusCode = (f ctx').2.statusCode
  statusCodes : (f ctx).2.statusCodes = (f ctx').2.statusCodes
  missing : (f ctx).2.missing = (f ctx').2.missing
  obligations : (f ctx).2.obligations = (f ctx').2.obligations
  lookups : ∃ ds, (f ctx).2.lookups = ctx.lookups ++ ds ∧ (f ctx').2.lookups = ctx'.lookups ++ ds

/-- Notes say all there is to see of an outcome, wherever they are put. -/
theorem sameOutcome_of_after {f : Context → β × Context} {ctx ctx' : Context} {r : β} {n : Notes}
    (b b' : Bool) (h : f ctx = (r, (ctx.setTargetMatched b).after n))
    (h' : f ctx' = (r, (ctx'.setTargetMatched b').after n)) : SameOutcome f ctx ctx' where
  result := by rw [h, h']
  statusCode := by rw [h, h']; rfl
  statusCodes := by rw [h, h']; rfl
  missing := by rw [h, h']; rfl
  obligations := by rw [h, h']; rfl
  lookups := ⟨n.lookups, by rw [h]; rfl, by rw [h']; rfl⟩

namespace Scene

/-- A child that a fold evaluates once it has reset the status. -/
theorem evaluateNode_resetStatus (s : Scene) (n : Node) {ctx : Context} (ho : ctx.obligations = []) :
    s.evaluateNode n ctx.resetStatus = (s.visitWithin (room ctx) n).result ctx := by
  have hrun := (s.childWithin_comesTo (room ctx) n).1.run ctx rfl
  rw [← Context.resetStatus_eq_after ho] at hrun
  exact hrun

/-- Nothing that was evaluated on either context before has a part in what is evaluated on it now. -/
structure Isolated (s : Scene) (ctx ctx' : Context) : Prop where
  rules : ∀ (a : RuleAlgorithm) (slots : Option (List (Option Rule))),
    SameOutcome (s.combineRules a slots) ctx ctx'
  /-- Whether this fold respects abandoned children need not be as in the scene. -/
  nodes : ∀ (a : PolicyAlgorithm) (ra : Bool) (slots : Option (List (Option Node))),
    SameOutcome (fun c => a.combine ra (slots.map (·.map (·.map (s.childWithin (room c))))) c) ctx ctx'
  /-- A child is evaluated on what its siblings left, with the status reset. -/
  children : ∀ n : Node, SameOutcome (fun c => s.evaluateNode n c.resetStatus) ctx ctx'
  /-- The target flag is of the child evaluated last, unless that was cut short. -/
  flags : ∀ n : Node, (s.evaluateNode n ctx.resetStatus).1 ≠ none →
    (s.evaluateNode n ctx.resetStatus).2.targetMatched =
      (s.evaluateNode n ctx'.resetStatus).2.targetMatched

theorem isolated_of_peers (s : Scene) {ctx ctx' : Context} (h : ctx.Peers ctx') :
    s.Isolated ctx ctx' where
  rules a slots := by
    have hctx := s.combineRules_eq a slots h.obligations
    have hctx' := s.combineRules_eq a slots h.obligations'
    exact sameOutcome_of_after ctx.targetMatched ctx'.targetMatched hctx hctx'
  nodes a ra slots := by
    obtain ⟨b, hctx⟩ := s.combineNodes_eq a ra slots ctx h.obligations
    obtain ⟨b', hctx'⟩ := s.combineNodes_eq a ra slots ctx' h.obligations'
    have halone : s.alone ctx' = s.alone ctx := by
      rw [alone_eq_visitWithin, alone_eq_visitWithin, h.room_eq]
    rw [halone] at hctx'
    exact sameOutcome_of_after b b' hctx hctx'
  children n := by
    have hctx := s.evaluateNode_resetStatus n h.obligations
    have hctx' := s.evaluateNode_resetStatus n h.obligations'
    rw [← h.room_eq] at hctx'
    exact sameOutcome_of_after _ _ hctx hctx'
  flags n hd := by
    have hctx := s.evaluateNode_resetStatus n h.obligations
    have hctx' := s.evaluateNode_resetStatus n h.obligations'
    rw [← h.room_eq] at hctx'
    rw [hctx] at hd ⊢
    rw [hctx']
    have hsome : (s.visitWithin (room ctx) n).decision.isSome := Option.isSome_iff_ne_none.mpr hd
    simp [Visit.result, Visit.flag, hsome]

/-- The status and the flag that a failed evaluation left are not taken for those of a child to which
nothing applies. -/
theorem isolated_of_peers_used :
    let p := { Policy.always "p" .deny ["audit"] with target := some { operator := .or } }
    let s := leadingTo (.policy (.always "q" .permit ["log"]))
    let out := s.combineNodes .onlyOneApplicable (some [some (.policy p), some (.reference "q")])
      { statusCode := .syntaxError, statusCodes := [.syntaxError], targetMatched := true }
    out.1 = .permit ∧ out.2.statusCode = .ok ∧ out.2.statusCodes = [] ∧
      out.2.obligations = [⟨"log", .permit, []⟩] := by
  intro p s out
  have hp : Context.Peers
      { statusCode := .syntaxError, statusCodes := [.syntaxError], targetMatched := true } {} :=
    ⟨rfl, rfl, rfl, rfl⟩
  have h := (s.isolated_of_peers hp).nodes .onlyOneApplicable false
    (some [some (.policy p), some (.reference "q")])
  exact ⟨h.result.trans (by decide), h.statusCode.trans (by decide), h.statusCodes.trans (by decide),
    h.obligations.trans (by decide)⟩

end Scene

end Arbiter
