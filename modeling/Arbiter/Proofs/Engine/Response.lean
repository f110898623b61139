import Arbiter.Engine
import Arbiter.Proofs.Locality

namespace Arbiter

namespace Response

/-- A response without what only tells how it was come by. -/
def untimed (r : Response) : Response := { r with cached := false, evaluationTimeMs := .zero }

theorem untimed_ofContext (id : String) (d : Decision) (ctx : Context) :
    (ofContext id d ctx).untimed = ofContext id d ctx := by
  cases d <;> rfl

/-- The request is known to a response by its id alone. -/
theorem ofContext_withId (id id' : String) (d : Decision) (ctx : Context) :
    { ofContext id d ctx with requestId := id' } = ofContext id' d ctx := by
  cases d <;> rfl

theorem requestId_ofContext (id : String) (d : Decision) (ctx : Context) :
    (ofContext id d ctx).requestId = id := by
  cases d <;> rfl

theorem decision_ofContext (id : String) (d : Decision) (ctx : Context) :
    (ofContext id d ctx).decision = d := by
  cases d <;> rfl

theorem cached_ofContext (id : String) (d : Decision) (ctx : Context) :
    (ofContext id d ctx).cached = false := by
  cases d <;> rfl

theorem mem_statusCodes_ofContext {id : String} {d : Decision} {ctx : Context} {c : StatusCode}
    (h : c ∈ (ofContext id d ctx).statusCodes) : c ∈ ctx.statusCodes := by
  by_cases hd : d = .indeterminate
  · simpa [ofContext, hd] using h
  · simp [ofContext, hd] at h

/-- Of the context, a response tells what was noted on it. -/
theorem ofContext_after (id : String) (d : Decision) (ctx ctx' : Context) (n : Notes) :
    ofContext id d (ctx.after n) = ofContext id d (ctx'.after n) := rfl

end Response

namespace Engine

variable (e : Engine) (r : Request)

/-- The context that evaluation starts from. -/
def start : Context := { maxReferenceDepth := e.settings.engine.maxReferenceDepth }

/-- What the policies answer to a request. -/
def respond : Response := Response.ofContext r.id (e.decide r).1 (e.decide r).2

/-- What the root fold comes to over the candidates. -/
def verdict : Decision × Notes :=
  e.settings.engine.rootAlgorithm.outcome ((e.scene r).alone e.start)
    e.settings.engine.respectAbandoned (some (e.store.candidates.map some))

theorem respond_eq :
    e.respond r = Response.ofContext r.id (e.verdict r).1 (e.start.after (e.verdict r).2) := by
  obtain ⟨b, hb⟩ := (e.scene r).combineNodes_eq e.settings.engine.rootAlgorithm
    e.settings.engine.respectAbandoned (some (e.store.candidates.map some)) e.start rfl
  have hd : e.decide r =
      ((e.verdict r).1, (e.start.setTargetMatched b).after (e.verdict r).2) := hb
  rw [respond, hd]
  exact Response.ofContext_after r.id (e.verdict r).1 _ _ (e.verdict r).2

theorem respond_decision : (e.respond r).decision = (e.verdict r).1 := by
  rw [respond_eq, Response.decision_ofContext]

theorem compute_response (t : Timing) : (e.compute t r).1.response.untimed = e.respond r :=
  Response.untimed_ofContext r.id (e.decide r).1 (e.decide r).2

end Engine

/-- Of its context, a response tells nothing about lookups. -/
theorem Response.ofContext_untraced (id : String) (d : Decision) (ctx : Context) (n : Notes) :
    ofContext id d (ctx.after n.untraced) = ofContext id d (ctx.after n) := rfl

namespace Engine

variable {e e' : Engine} {r r' : Request}

/-- Two engines that combine the same candidates, and to which these come to the same, answer alike. -/
theorem respond_congr (hs : e.settings.engine = e'.settings.engine)
    (hc : e.store.candidates = e'.store.candidates)
    (ha : ∀ n ∈ e.store.candidates, (e.scene r).AgreesOn (e'.scene r') n) :
    { e.respond r with requestId := r'.id } = e'.respond r' := by
  have hstart : e.start = e'.start := by rw [start, start, hs]
  have hverdict : untraced (e.verdict r) = untraced (e'.verdict r') := by
    rw [verdict, verdict, ← hs, ← hc, ← hstart]
    apply PolicyAlgorithm.outcome_untraced_congr
    intro n hn
    have hm : n ∈ e.store.candidates := by simpa [presentIn] using hn
    exact (ha n hm).alone_untraced e.start
  obtain ⟨hd, hnotes⟩ := eq_of_untraced hverdict
  calc { e.respond r with requestId := r'.id }
      = Response.ofContext r'.id (e.verdict r).1 (e.start.after (e.verdict r).2.untraced) := by
        rw [respond_eq, Response.ofContext_withId, Response.ofContext_untraced]
    _ = e'.respond r' := by
        rw [respond_eq, hd, hnotes, hstart, Response.ofContext_untraced]

/-- Without a finder, the policies answer alike to requests of the same attributes. -/
theorem respond_of_attributes (hf : e.finder = none) (h : r.attributes = r'.attributes) :
    { e.respond r with requestId := r'.id } = e.respond r' := by
  have hbag (d : Designator) : Source.bag ⟨r, e.finder⟩ d = Source.bag ⟨r', e.finder⟩ d := by
    apply Source.bag_of_static (by simp [hf])
    rw [Request.bag, Request.bag, h]
  apply respond_congr rfl rfl
  intro n _
  exact
    { target := rfl
      condition := rfl
      respectAbandoned := rfl
      conditions := fun m _ c _ => Condition.evaluate_result fun _ _ d _ =>
        congrArg (·.result) (hbag d)
      references := fun _ _ => rfl }

end Engine

end Arbiter
