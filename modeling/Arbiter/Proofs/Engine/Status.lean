import Arbiter.Proofs.Engine.Transparency
import Arbiter.Proofs.Status

namespace Arbiter

def Response.Agrees (r : Response) : Prop :=
  StatusAgrees r.decision r.statusCode r.statusCodes r.missing r.obligations

/-- A response to an evaluation that decided tells no status. -/
theorem Response.ofContext_agrees {d : Decision} {ctx : Context} (h : ctx.Agrees d) (id : String) :
    (ofContext id d ctx).Agrees := by
  by_cases hd : d = .indeterminate
  · subst hd
    exact ⟨fun hne => absurd rfl hne, h.primary, h.ok_notMem, fun _ => rfl, h.missing_iff, h.distinct⟩
  · have hof : ofContext id d ctx =
        { requestId := id, decision := d, statusCode := .ok,
          obligations := (ofContext id d ctx).obligations } := by
      simp [ofContext, hd]
    rw [hof]
    exact ⟨fun _ => ⟨rfl, rfl, rfl⟩, fun hi => absurd hi hd, List.not_mem_nil, fun hi => absurd hi hd,
      by simp, List.nodup_nil⟩

namespace Engine

theorem respond_agrees (e : Engine) (r : Request) : (e.respond r).Agrees :=
  Response.ofContext_agrees
    (((e.scene r).coherent e.start).nodes e.settings.engine.rootAlgorithm
      e.settings.engine.respectAbandoned (some (e.store.candidates.map some))) r.id

/-- Every fold, whatever it combines and whatever was left on the context before it, leaves a status that
agrees with its decision, and so does every response of an engine, be it computed or cached. -/
theorem status_agrees_with_decision :
    (∀ (s : Scene) (ctx : Context), s.Coherent ctx) ∧
      ∀ e : Engine, e.Reachable → ∀ (t : Timing) (r : Request), (e.evaluate t r).1.response.Agrees := by
  refine ⟨fun s ctx => s.coherent ctx, ?_⟩
  intro e he t r
  obtain ⟨hresponse, -, -⟩ := evaluate_spec he.consistent t r
  have huntimed : (e.evaluate t r).1.response.untimed.Agrees := by
    rw [hresponse]
    exact e.respond_agrees r
  exact huntimed

/-- A policy on subjects of any role, which is an attribute that they must have. -/
def roleRequired : Policy :=
  { Policy.always "p" .permit ["audit"] with
    target := some (.isPresent { category := .subject, attributeId := "role", mustBePresent := true }) }

/-- An answer kept from an evaluation that missed an attribute is given again, to another request. -/
theorem status_agrees_with_decision_cached :
    let built : Engine :=
      { settings := { cache := { enabled := true } }, store := ⟨[.policy roleRequired], 1⟩,
        cache := some (.ofCapacity 10000 300000), telemetry := some {} }
    let e := (built.run [(.evaluate { id := "a" }, { now := 1 })]).2
    let response := (e.evaluate { now := 2 } { id := "b" }).1.response
    response.cached ∧ response.decision = .indeterminate ∧
      response.statusCodes.head? = some response.statusCode ∧
        .missingAttribute ∈ response.statusCodes ∧ response.obligations = [] := by
  intro built e response
  have hreach : e.Reachable :=
    ⟨{ policies := [.policy roleRequired], cacheEnabled := some true }, built, _, rfl, rfl⟩
  have h := status_agrees_with_decision.2 e hreach { now := 2 } { id := "b" }
  have hd : response.decision = .indeterminate := by decide +kernel
  have hm : response.missing ≠ [] := by decide +kernel
  exact ⟨by decide +kernel, hd, h.primary hd, h.missing_iff.mpr hm, h.unbound hd⟩

end Engine

end Arbiter
