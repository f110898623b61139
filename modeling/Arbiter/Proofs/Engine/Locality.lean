import Arbiter.Proofs.Engine.Transparency

/-! Locality of answers: what the policies do not ask for and what they do not lead to has no part in
them.

Two engines are compared that are set up alike and list the same enabled nodes. For their answers to
differ, some condition must ask for a bag that they do not share, or some reference must lead
elsewhere. -/

namespace Arbiter

/-- What may be reached hangs on where references lead, and not on the request. -/
theorem Scene.Reaches.of_resolve {s s' : Scene} (hr : s.resolve = s'.resolve) {n m : Node}
    (h : s.Reaches n m) : s'.Reaches n m := by
  induction h with
  | self n => exact .self n
  | child hn _ ih => exact .child hn ih
  | reference hn _ ih => exact .reference (hr ▸ hn) ih

namespace Engine

/-- A node may be reached from an enabled one. The request has no part in this. -/
def Reaches (e : Engine) (m : Node) : Prop :=
  ∃ n ∈ e.store.nodes, n.isEnabled ∧ (e.scene {}).Reaches n m

/-- A condition occurs in a node that may be reached. -/
def Poses (e : Engine) (c : Condition) : Prop := ∃ m, e.Reaches m ∧ c ∈ m.conditions

/-- A designator occurs in a condition of a node that may be reached. -/
def Consults (e : Engine) (d : Designator) : Prop :=
  ∃ m, e.Reaches m ∧ ∃ c ∈ m.conditions, ∃ p, c.Part p ∧ p.designator = some d

/-- Engines that combine nodes in the same way and match conditions in the same way. -/
structure SetUpLike (e e' : Engine) : Prop where
  settings : e.settings.engine = e'.settings.engine
  target : e.target = e'.target
  condition : e.condition = e'.condition

variable {e e' : Engine}

/-- The policies answer alike to requests for which their conditions come to the same, if they are the same
where it counts. -/
theorem respond_of_agreement (hs : e.SetUpLike e')
    (hn : e.store.nodes.filter (·.isEnabled) = e'.store.nodes.filter (·.isEnabled))
    (href : ∀ id, e.Reaches (.reference id) → e.store.get? id = e'.store.get? id) {r r' : Request}
    (hc : ∀ c, e.Poses c → (e.scene r).matching.AgreesOn (e'.scene r').matching c) :
    { e.respond r with requestId := r'.id } = e'.respond r' := by
  have hagree (n : Node) (hm : n ∈ e.store.candidates) : (e.scene r).AgreesOn (e'.scene r') n := by
    have hreach (m : Node) (h : (e.scene r).Reaches n m) : e.Reaches m := by
      obtain ⟨hmem, henabled⟩ := Store.mem_candidates.mp hm
      have hr : (e.scene r).resolve = (e.scene {}).resolve := rfl
      exact ⟨n, hmem, henabled, h.of_resolve hr⟩
    exact
      { target := hs.target
        condition := hs.condition
        respectAbandoned := congrArg (·.respectAbandoned) hs.settings
        conditions := fun m h c hm => hc c ⟨m, hreach m h, hm⟩
        references := fun id h => href id (hreach _ h) }
  have hcandidates : e.store.candidates = e'.store.candidates := by
    rw [Store.candidates, Store.candidates, hn]
  exact respond_congr hs.settings hcandidates hagree

/-- The policies answer alike to requests with the same bags, if they are the same where it counts. -/
theorem respond_local (hs : e.SetUpLike e')
    (hn : e.store.nodes.filter (·.isEnabled) = e'.store.nodes.filter (·.isEnabled))
    (href : ∀ id, e.Reaches (.reference id) → e.store.get? id = e'.store.get? id) {r r' : Request}
    (hb : ∀ d, e.Consults d →
      (Source.bag ⟨r, e.finder⟩ d).result = (Source.bag ⟨r', e'.finder⟩ d).result) :
    { e.respond r with requestId := r'.id } = e'.respond r' := by
  apply respond_of_agreement hs hn href
  rintro c ⟨m, hm, hc⟩
  exact Condition.evaluate_result fun p hp d hd => hb d ⟨m, hm, c, hc, p, hp, hd⟩

/-- What engines answer to two requests is the same but for the ids they are addressed to, whatever
their caches hold and their clocks say. -/
def AnswersAlike (e e' : Engine) (r r' : Request) : Prop :=
  ∀ t t', { (e.evaluate t r).1.response.untimed with requestId := r'.id } =
    (e'.evaluate t' r').1.response.untimed

/-- Requests and attribute finders come into the answers by the bags alone that the policies ask for. -/
structure Confined (e e' : Engine) : Prop where
  bags : ∀ r r', (∀ d, e.Consults d →
    (Source.bag ⟨r, e.finder⟩ d).result = (Source.bag ⟨r', e'.finder⟩ d).result) →
      e.AnswersAlike e' r r'
  /-- An attribute counts only if it is selected by a designator that the policies hold. -/
  undesignated : e.finder = e'.finder → (∀ f ∈ e.finder, f.Static) → ∀ keep : Attribute → Bool,
    (∀ d, e.Consults d → ∀ a : Attribute, a.isSelectedBy d → keep a) → ∀ r r',
      r.attributes.filter keep = r'.attributes.filter keep → e.AnswersAlike e' r r'
  /-- A finder counts only if the request leaves some bag empty. -/
  supplied : ∀ r, (∀ d, e.Consults d → r.bag d ≠ []) → e.AnswersAlike e' r r

/-- This holds of all engines of the same policies, whatever was done to them before. -/
theorem confined (he : e.Reachable) (he' : e'.Reachable) (hs : e.SetUpLike e')
    (hn : e.store.nodes = e'.store.nodes) : e.Confined e' := by
  have hbags (r r' : Request) (hb : ∀ d, e.Consults d →
      (Source.bag ⟨r, e.finder⟩ d).result = (Source.bag ⟨r', e'.finder⟩ d).result) :
      e.AnswersAlike e' r r' := by
    intro t t'
    have href (id : String) : e.store.get? id = e'.store.get? id := by
      rw [Store.get?, Store.get?, hn]
    obtain ⟨h, -⟩ := evaluate_spec he.consistent t r
    obtain ⟨h', -⟩ := evaluate_spec he'.consistent t' r'
    rw [h, h']
    exact respond_local hs (by rw [hn]) (fun id _ => href id) hb
  refine ⟨hbags, ?_, ?_⟩
  · intro hf hstatic keep hkeep r r' h
    apply hbags
    intro d hd
    rw [← hf, Source.bag_of_static hstatic (Request.bag_of_kept (hkeep d hd) h)]
  · intro r hr
    apply hbags
    intro d hd
    rw [Source.bag_of_supplied (hr d hd)]

/-- Permits to admins, and wants to know whether one is. -/
def adminsOnly : Policy :=
  { Policy.always "p" .permit ["audit"] with
    target := some (.compare .equals
      { category := .subject, attributeId := "role", mustBePresent := true } (.string "admin")) }

def roles : Finder := .ofValues [({ category := .subject, attributeId := "role" }, .string "admin")]

theorem eq_role_of_consults {e : Engine} (h : e.store.nodes = [.policy adminsOnly]) {d : Designator}
    (hd : e.Consults d) : d = { category := .subject, attributeId := "role", mustBePresent := true } := by
  obtain ⟨m, ⟨n, hn, -, hm⟩, c, hc, p, hp, hd⟩ := hd
  rw [h] at hn
  obtain rfl := List.mem_singleton.mp hn
  cases hm
  obtain rfl := List.mem_singleton.mp hc
  cases hp with
  | self => exact (Option.some.inj hd).symm
  | nested hconn => cases hconn

/-- A role that one request tells and a finder knows for the other, which tells the weather or nothing. -/
theorem confined_found :
    let e : Engine := { settings := {}, store := ⟨[.policy adminsOnly], 1⟩, telemetry := some {} }
    let e' : Engine :=
      { settings := {}, finder := some roles, store := ⟨[.policy adminsOnly], 1⟩, telemetry := some {} }
    let r : Request :=
      { id := "a",
        attributes := [{ category := .subject, attributeId := "role", values := [.string "admin"] }] }
    let r' : Request :=
      { id := "b",
        attributes := [{ category := .environment, attributeId := "sky", values := [.string "clear"] }] }
    (e.evaluate {} r).1.response.decision = .permit ∧ e.AnswersAlike e' r r' ∧
      e'.AnswersAlike e' r' { id := "c" } := by
  intro e e' r r'
  have he : e.Reachable := ⟨{ policies := [.policy adminsOnly] }, e, [], rfl, rfl⟩
  have he' : e'.Reachable :=
    ⟨{ policies := [.policy adminsOnly], finder := some roles }, e', [], rfl, rfl⟩
  have hbags := (confined he he' ⟨rfl, rfl, rfl⟩ rfl).bags r r'
  have hundesignated := (confined he' he' ⟨rfl, rfl, rfl⟩ rfl).undesignated rfl
  refine ⟨by decide +kernel, hbags ?_, hundesignated ?_ (·.category = .subject) ?_ r' _ rfl⟩
  · intro d hd
    obtain rfl := eq_role_of_consults rfl hd
    rfl
  · rintro f ⟨⟩
    exact Finder.ofValues_static _
  · intro d hd a ha
    obtain rfl := eq_role_of_consults rfl hd
    simp only [Attribute.isSelectedBy, Bool.and_eq_true] at ha
    exact ha.1.1.1

/-- Disabled nodes have no part in the answers, whatever they are and wherever they stand, unless
references lead to them. -/
theorem evaluate_eq_of_enabled (he : e.Reachable) (he' : e'.Reachable) (hs : e.SetUpLike e')
    (hf : e.finder = e'.finder)
    (hn : e.store.nodes.filter (·.isEnabled) = e'.store.nodes.filter (·.isEnabled))
    (href : ∀ id, e.Reaches (.reference id) → e.store.get? id = e'.store.get? id) (r : Request)
    (t t' : Timing) :
    (e.evaluate t r).1.response.untimed = (e'.evaluate t' r).1.response.untimed := by
  obtain ⟨h, -⟩ := evaluate_spec he.consistent t r
  obtain ⟨h', -⟩ := evaluate_spec he'.consistent t' r
  have hlocal : { e.respond r with requestId := r.id } = e'.respond r := by
    apply respond_local hs hn href
    intro d _
    rw [hf]
  calc (e.evaluate t r).1.response.untimed
      = { e.respond r with requestId := r.id } := by
        rw [h, respond_eq, Response.ofContext_withId]
    _ = (e'.evaluate t' r).1.response.untimed := by rw [hlocal, h']

/-- A policy that is kept for others to refer to. -/
def shelved (id : String) (e : Effect) : Node := .policy { Policy.always id e [] with enabled := false }

def referring (id : String) : Node :=
  .policySet { id := "set", algorithm := some .firstApplicable } (some [some (.reference id)])

theorem eq_of_reaches_referring {e : Engine} {id id' : String} {p : Policy}
    (hn : ∀ n ∈ e.store.nodes, n.isEnabled → n = referring id)
    (hp : e.store.get? id = some (.policy p)) (h : e.Reaches (.reference id')) : id' = id := by
  obtain ⟨n, hmem, henabled, h⟩ := h
  obtain rfl := hn n hmem henabled
  cases h with
  | child hchild h =>
    obtain rfl := List.mem_singleton.mp hchild
    cases h with
    | self => rfl
    | reference hfound h =>
      obtain rfl := Option.some.inj (hp.symm.trans hfound)
      cases h

/-- A shelved policy that is referred to decides, and one that is not might as well not be there. -/
theorem evaluate_eq_of_enabled_shelved :
    let e : Engine :=
      { settings := {}, store := ⟨[referring "q", shelved "q" .permit], 2⟩, telemetry := some {} }
    let e' : Engine :=
      { settings := {}, store := ⟨[shelved "p" .deny, shelved "q" .permit, referring "q"], 3⟩,
        telemetry := some {} }
    (e.evaluate {} {}).1.response.decision = .permit ∧
      (e.evaluate {} {}).1.response.untimed = (e'.evaluate {} {}).1.response.untimed := by
  intro e e'
  have he : e.Reachable := ⟨{ policies := [referring "q", shelved "q" .permit] }, e, [], rfl, rfl⟩
  have he' : e'.Reachable :=
    ⟨{ policies := [shelved "p" .deny, shelved "q" .permit, referring "q"] }, e', [], rfl, rfl⟩
  have hn (n : Node) (hmem : n ∈ e.store.nodes) (henabled : n.isEnabled) : n = referring "q" := by
    rcases List.mem_cons.mp hmem with rfl | hmem
    · rfl
    · obtain rfl := List.mem_singleton.mp hmem
      cases henabled
  refine ⟨by decide +kernel, evaluate_eq_of_enabled he he' ⟨rfl, rfl, rfl⟩ rfl rfl ?_ {} {} {}⟩
  intro id hid
  obtain rfl := eq_of_reaches_referring hn rfl hid
  rfl

end Engine

end Arbiter
