import Arbiter.Proofs.Relation

namespace Arbiter

namespace Context

/-- Contexts that differ in their obligations at most. -/
def Resembles (ctx ctx' : Context) : Prop := ∃ os, ctx' = { ctx with obligations := os }

/-- No step of an evaluation looks at the obligations on its context. -/
theorem stable_resembles : Stable Resembles fun _ _ => True where
  statusCodes := by rintro _ _ ⟨_, rfl⟩; rfl
  missing := by rintro _ _ ⟨_, rfl⟩; rfl
  targetMatched := by rintro _ _ ⟨_, rfl⟩; rfl
  looked := by rintro _ _ ⟨os, rfl⟩ _; exact ⟨os, rfl⟩
  resetStatus := by rintro _ _ ⟨os, rfl⟩; exact ⟨os, rfl⟩
  report := by
    rintro _ _ ⟨os, rfl⟩ c
    refine ⟨os, ?_⟩
    unfold Context.report
    split <;> rfl
  setMissing := by rintro _ _ ⟨os, rfl⟩ _; exact ⟨os, rfl⟩
  setTargetMatched := by rintro _ _ ⟨os, rfl⟩ _; exact ⟨os, rfl⟩
  clearObligations := by rintro _ _ ⟨_, rfl⟩; exact ⟨[], rfl⟩
  addObligations := by rintro _ _ ⟨os, rfl⟩ added e; exact ⟨os ++ obligationsFor e added, rfl⟩
  nil := trivial
  add _ _ _ _ := trivial
  finish := by
    rintro ctx _ h h' ⟨os, rfl⟩ - d
    exact ⟨(h'.finish d { ctx with obligations := os }).2.obligations, by cases d <;> rfl⟩

theorem enters_resembles : Enters Resembles Resembles where
  enter := by
    rintro ctx _ ⟨os, rfl⟩
    unfold Context.enterReference?
    dsimp only
    split
    · exact .some ⟨os, rfl⟩
    · exact .none
  leave := by rintro _ _ ⟨os, rfl⟩; exact ⟨os, rfl⟩

end Context

open Context (Resembles stable_resembles enters_resembles)

namespace Scene

theorem childWithin_keeps_resemblance (s : Scene) (k : Nat) (n : Node) :
    (s.childWithin k n).Like Resembles (s.childWithin k n) :=
  s.childWithin_like (fun _ => stable_resembles) (fun _ => enters_resembles) k n 0

/-- A fold comes to the same, but for obligations, on a context relieved of those it held. -/
theorem combineRules_clearObligations (s : Scene) (a : RuleAlgorithm)
    (slots : Option (List (Option Rule))) (ctx : Context) :
    (s.combineRules a slots ctx).1 = (s.combineRules a slots ctx.clearObligations).1 ∧
      (s.combineRules a slots ctx).2.Resembles (s.combineRules a slots ctx.clearObligations).2 :=
  a.combine_keeps stable_resembles s.matching slots ctx ctx.clearObligations ⟨[], rfl⟩

theorem combineNodes_clearObligations (s : Scene) (a : PolicyAlgorithm) (ra : Bool)
    (slots : Option (List (Option Node))) (ctx : Context) :
    let combine := a.combine ra (slots.map (·.map (·.map (s.childWithin (room ctx)))))
    (combine ctx).1 = (combine ctx.clearObligations).1 ∧
      (combine ctx).2.Resembles (combine ctx.clearObligations).2 :=
  a.combine_keeps stable_resembles ra slots (fun n _ => s.childWithin_keeps_resemblance (room ctx) n)
    ctx ctx.clearObligations ⟨[], rfl⟩

/-- What a fold over nodes comes to on any context, its obligations aside. -/
theorem combineNodes_resembles (s : Scene) (a : PolicyAlgorithm) (ra : Bool)
    (slots : Option (List (Option Node))) (ctx : Context) :
    let out := a.combine ra (slots.map (·.map (·.map (s.childWithin (room ctx))))) ctx
    out.1 = (a.outcome (s.alone ctx) ra slots).1 ∧
      ∃ b, out.2.Resembles
        ((ctx.clearObligations.setTargetMatched b).after (a.outcome (s.alone ctx) ra slots).2) := by
  obtain ⟨hfst, hsnd⟩ := s.combineNodes_clearObligations a ra slots ctx
  obtain ⟨b, hb⟩ := s.combineNodes_eq a ra slots ctx.clearObligations rfl
  have halone : s.alone ctx.clearObligations = s.alone ctx := rfl
  have hroom : room ctx.clearObligations = room ctx := rfl
  rw [halone, hroom] at hb
  rw [hb] at hfst hsnd
  exact ⟨hfst, b, hsnd⟩

/-- The same for children that are all present. -/
theorem combine_resembles (s : Scene) (a : PolicyAlgorithm) (ra : Bool) (ns : List Node) (ctx : Context) :
    let out := a.combine ra (some (ns.map fun n => some (s.childWithin (room ctx) n))) ctx
    out.1 = (a.foldOutcome (s.alone ctx) ra ns).1 ∧
      ∃ ctx' : Context, out.2.Resembles (ctx'.after (a.foldOutcome (s.alone ctx) ra ns).2) := by
  obtain ⟨hfst, b, hsnd⟩ := s.combineNodes_resembles a ra (some (ns.map some)) ctx
  simp only [Option.map_some, List.map_map, Function.comp_def, PolicyAlgorithm.outcome,
    allPresent?_map_some] at hfst hsnd
  exact ⟨hfst, _, hsnd⟩

end Scene

end Arbiter
