import Arbiter.Proofs.Distinct
import Arbiter.Proofs.Notes

/-! Visits: what a fold learns of a child, and what it makes of those it has visited.

The folds gather obligations in a harvest and faults beside it. Both are functions of the list of
visits, and so is what a fold leaves on its context when it ends. -/

namespace Arbiter

/-- A list up to the first element that passes, that one included. -/
def upTo (p : α → Bool) : List α → List α
  | [] => []
  | x :: xs => if p x then [x] else x :: upTo p xs

theorem upTo_of_pos {p : α → Bool} {x : α} (h : p x) (xs : List α) : upTo p (x :: xs) = [x] :=
  if_pos h

theorem upTo_of_neg {p : α → Bool} {x : α} (h : p x = false) (xs : List α) :
    upTo p (x :: xs) = x :: upTo p xs :=
  if_neg (by simp [h])

theorem upTo_of_none {p : α → Bool} {xs : List α} (h : ∀ x ∈ xs, p x = false) : upTo p xs = xs := by
  induction xs with
  | nil => rfl
  | cons x xs ih =>
    rw [upTo_of_neg (h x List.mem_cons_self), ih fun y hy => h y (List.mem_cons_of_mem x hy)]

theorem upTo_congr {p q : α → Bool} {xs : List α} (h : ∀ x ∈ upTo p xs, p x = q x) :
    upTo p xs = upTo q xs := by
  induction xs with
  | nil => rfl
  | cons x xs ih =>
    cases hp : p x with
    | true =>
      rw [upTo_of_pos hp] at h ⊢
      have hq : q x := (h x List.mem_cons_self).symm.trans hp
      rw [upTo_of_pos hq]
    | false =>
      rw [upTo_of_neg hp] at h ⊢
      have hq : q x = false := (h x List.mem_cons_self).symm.trans hp
      rw [upTo_of_neg hq, ih fun y hy => h y (List.mem_cons_of_mem x hy)]

theorem upTo_sublist (p : α → Bool) (xs : List α) : (upTo p xs).Sublist xs := by
  induction xs with
  | nil => exact .slnil
  | cons x xs ih =>
    unfold upTo
    split
    · simp
    · simpa using ih

theorem Effect.decision_injective {e e' : Effect} (h : e.decision = e'.decision) : e = e' := by
  cases e <;> cases e' <;> simp_all [Effect.decision]

theorem Decision.decision_of_effect? {d : Decision} {e : Effect} (h : d.effect? = some e) :
    e.decision = d := by
  cases d <;> cases e <;> simp_all [Decision.effect?, Effect.decision]

/-- Obligations are left of the effect decided only, and no code is reported that is no news. -/
structure Notes.Fits (n : Notes) (d : Decision) : Prop where
  bound : ∀ o ∈ n.obligations, o.fulfillOn.decision = d
  codes_ne_ok : .ok ∉ n.codes

/-- A visited child: what it declares itself, and what its own evaluation came to. -/
structure Visit extends Notes where
  /-- Absent if a node that was reached has no combining algorithm. -/
  decision : Option Decision
  declared : List Obligation
  /-- Whether the child may bring obligations. -/
  carries : Bool
  /-- Whether its target matched. -/
  applicable : Bool
  deriving DecidableEq

namespace Visit

def decides (v : Visit) (d : Decision) : Bool := v.decision = some d

/-- What the child brings to a decision of its own effect: first what it declares itself. -/
def brings (v : Visit) (e : Effect) : List Obligation := obligationsFor e v.declared ++ v.obligations

/-- A child that left no code counts as a processing error. -/
def faultCodes (v : Visit) : List StatusCode :=
  if v.codes.isEmpty then [.processingError] else v.codes

def harvest (v : Visit) : Harvest :=
  match v.decision.bind (·.effect?) with
  | none => []
  | some e => (v.brings e).map (e, ·)

/-- What every evaluation keeps to: its notes fit its decision, it decides an effect only if its
target matched, and one that is cut short leaves nothing that would count. -/
structure Sound (v : Visit) : Prop where
  fits : ∀ d, v.decision = some d → v.toNotes.Fits d
  applicable : ∀ e : Effect, v.decision = some e.decision → v.applicable
  cut : v.decision = none → v.applicable = false ∧ v.obligations = []

end Visit

/-- The obligations that children of one effect brought, in the order of the visits. -/
def broughtBy (e : Effect) (vs : List Visit) : List Obligation :=
  (vs.filter (·.decides e.decision)).flatMap (·.brings e)

/-- The faults of the indeterminate children, in the order of the visits. -/
def faultsOf (vs : List Visit) : Faults where
  codes := (vs.filter (·.decides .indeterminate)).flatMap (·.faultCodes)
  missing := (vs.filter (·.decides .indeterminate)).foldl (fun ms v => addAllNew ms v.missing) []

def lookupsOf (vs : List Visit) : List Designator := vs.flatMap (·.lookups)

/-- What a fold leaves that ends with this decision after these visits: faults if it is
indeterminate, and obligations if it decided. -/
def closing (d : Decision) (vs : List Visit) : Notes where
  codes := if d = .indeterminate then (faultsOf vs).codes else []
  missing := if d = .indeterminate then (faultsOf vs).missing else []
  obligations := match d.effect? with
    | none => []
    | some e => broughtBy e vs
  lookups := lookupsOf vs

section

variable (e : Effect) (v : Visit) (vs ws : List Visit)

@[simp] theorem broughtBy_append : broughtBy e (vs ++ ws) = broughtBy e vs ++ broughtBy e ws := by
  simp [broughtBy]

theorem broughtBy_cons : broughtBy e (v :: vs) = broughtBy e [v] ++ broughtBy e vs :=
  broughtBy_append e [v] vs

theorem faultsOf_append_of_not (h : v.decides .indeterminate = false) :
    faultsOf (vs ++ [v]) = faultsOf vs := by
  simp [faultsOf, h]

theorem faultsOf_isEmpty : (faultsOf vs).isEmpty = !vs.any (·.decides .indeterminate) := by
  induction vs with
  | nil => rfl
  | cons v vs ih =>
    cases h : v.decides .indeterminate with
    | false => simpa [faultsOf, Faults.isEmpty, h] using ih
    | true =>
      cases hc : v.codes <;> simp [faultsOf, Faults.isEmpty, h, Visit.faultCodes, hc]

/-- What is missed is told once, where it was missed first. -/
theorem faultsOf_missing :
    (faultsOf vs).missing = ((vs.filter (·.decides .indeterminate)).flatMap (·.missing)).eraseDups := by
  simp only [faultsOf]
  suffices h : ∀ (ws : List Visit) (ms : List MissingAttribute),
      ws.foldl (fun ms v => addAllNew ms v.missing) ms.eraseDups =
        (ms ++ ws.flatMap (·.missing)).eraseDups from h _ []
  intro ws ms
  induction ws generalizing ms with
  | nil => simp
  | cons w ws ih => rw [List.foldl_cons, addAllNew_eraseDups, ih, List.flatMap_cons, List.append_assoc]

theorem ofEffect_harvest : Harvest.ofEffect e v.harvest = broughtBy e [v] := by
  cases hd : v.decision with
  | none => simp [Visit.harvest, Harvest.ofEffect, broughtBy, Visit.decides, hd]
  | some d =>
    cases d <;> cases e <;>
      simp [Visit.harvest, Harvest.ofEffect, broughtBy, Visit.decides, hd, Decision.effect?,
        Effect.decision, List.filter_map, Function.comp_def]

theorem ofEffect_append (h k : Harvest) :
    Harvest.ofEffect e (h ++ k) = Harvest.ofEffect e h ++ Harvest.ofEffect e k := by
  simp [Harvest.ofEffect]

/-- The harvest of some visits holds for each effect what children of that effect brought. -/
theorem ofEffect_flatMap_harvest : Harvest.ofEffect e (vs.flatMap (·.harvest)) = broughtBy e vs := by
  induction vs with
  | nil => rfl
  | cons v vs ih =>
    rw [List.flatMap_cons, ofEffect_append, ofEffect_harvest, ih, ← broughtBy_append]
    rfl

end

theorem obligationsFor_broughtBy {e : Effect} {vs : List Visit} (hv : ∀ v ∈ vs, v.Sound) :
    obligationsFor e (broughtBy e vs) = broughtBy e vs := by
  apply List.filter_eq_self.mpr
  intro o ho
  obtain ⟨v, hm, hb⟩ := List.mem_flatMap.mp ho
  obtain ⟨hmem, hdec⟩ := List.mem_filter.mp hm
  have hd : v.decision = some e.decision := by simpa [Visit.decides] using hdec
  rcases List.mem_append.mp hb with h | h
  · simpa [Obligation.appliesTo] using (mem_obligationsFor.mp h).2
  · have hb := ((hv v hmem).fits _ hd).bound o h
    simpa [Obligation.appliesTo] using Effect.decision_injective hb

theorem ok_notMem_faultsOf {vs : List Visit} (hv : ∀ v ∈ vs, v.Sound) :
    .ok ∉ (faultsOf vs).codes := by
  intro h
  obtain ⟨v, hm, hc⟩ := List.mem_flatMap.mp h
  obtain ⟨hmem, hdec⟩ := List.mem_filter.mp hm
  have hs := ((hv v hmem).fits .indeterminate (by simpa [Visit.decides] using hdec)).codes_ne_ok
  unfold Visit.faultCodes at hc
  split at hc
  · simp at hc
  · exact hs hc

theorem closing_fits {vs : List Visit} (hv : ∀ v ∈ vs, v.Sound) (d : Decision) :
    (closing d vs).Fits d := by
  constructor
  · intro o ho
    cases he : d.effect? with
    | none => simp [closing, he] at ho
    | some e =>
      have hmem : o ∈ obligationsFor e (broughtBy e vs) := by
        rw [obligationsFor_broughtBy hv]
        simpa [closing, he] using ho
      rw [(mem_obligationsFor.mp hmem).2]
      exact Decision.decision_of_effect? he
  · by_cases hd : d = .indeterminate
    · simpa [closing, hd] using ok_notMem_faultsOf hv
    · simp [closing, hd]

theorem fault_fits {c : StatusCode} (hc : c ≠ .ok) (ds : List Designator) :
    Notes.Fits { codes := [c], lookups := ds } .indeterminate :=
  ⟨fun _ ho => by simp at ho, by simpa using hc.symm⟩

theorem Harvest.add_after (h : Harvest) (ctx : Context) {v : Visit} {d : Decision}
    (hd : v.decision = some d) :
    h.add v.declared d (ctx.after v.toNotes) =
      (h ++ v.harvest, ctx.after { v.toNotes with obligations := [] }) := by
  cases he : d.effect? <;>
    simp [add, Visit.harvest, hd, he, Visit.brings]

theorem faultsOf_record (vs : List Visit) {ctx : Context} {v : Visit}
    (hd : v.decides .indeterminate) (hc : ctx.statusCodes = v.codes) (hm : ctx.missing = v.missing) :
    (faultsOf vs).record ctx = faultsOf (vs ++ [v]) := by
  simp [Faults.record, faultsOf, hd, hc, hm, Visit.faultCodes]

theorem finish_eq_closing {d : Decision} {vs : List Visit} (hv : ∀ v ∈ vs, v.Sound)
    (hd : d ≠ .indeterminate) (ctx : Context) :
    Harvest.finish (vs.flatMap (·.harvest)) d ctx =
      (d, ctx.after { closing d vs with lookups := [] }) := by
  cases he : d.effect? with
  | none => simp [Harvest.finish, Context.resetStatus_clearObligations, closing, he, hd]
  | some e =>
    simp [Harvest.finish, Context.resetStatus_clearObligations, closing, he, hd,
      ofEffect_flatMap_harvest, Context.addObligations, obligationsFor_broughtBy hv, Context.after]

theorem indeterminate_eq_closing {vs : List Visit} (hv : ∀ v ∈ vs, v.Sound) (ctx : Context) :
    (faultsOf vs).indeterminate ctx =
      (.indeterminate, ctx.after { closing .indeterminate vs with lookups := [] }) := by
  have hr := ctx.reportAll_after {} (by simp) (ok_notMem_faultsOf hv)
  rw [Faults.indeterminate, Context.clearObligations_resetStatus, hr]
  rfl

/-- The end of a fold that takes the decision of one child for its own. -/
theorem lone_finish {v : Visit} {d : Decision} (hv : v.Sound) (hd : v.decision = some d)
    (hi : d ≠ .indeterminate) (ctx : Context) :
    (Harvest.add [] v.declared d (ctx.after v.toNotes)).1.finish d
      (Harvest.add [] v.declared d (ctx.after v.toNotes)).2 = (d, ctx.after (closing d [v])) := by
  have hs : ∀ w ∈ [v], w.Sound := by simpa using hv
  rw [Harvest.add_after [] ctx hd]
  simpa [Notes.following, closing, lookupsOf] using
    finish_eq_closing hs hi (ctx.after { v.toNotes with obligations := [] })

theorem lone_fault {v : Visit} (hv : v.Sound) (hd : v.decision = some .indeterminate) (ctx : Context) :
    (Faults.record {} (ctx.after v.toNotes)).indeterminate (ctx.after v.toNotes) =
      (.indeterminate, ctx.after (closing .indeterminate [v])) := by
  have hs : ∀ w ∈ [v], w.Sound := by simpa using hv
  have hr : Faults.record {} (ctx.after v.toNotes) = faultsOf [v] :=
    faultsOf_record [] (by simp [Visit.decides, hd]) rfl rfl
  rw [hr, indeterminate_eq_closing hs]
  simp [Notes.following, closing, lookupsOf]

/-- A child that does not apply leaves no trace but its lookups. -/
theorem closing_cons {v : Visit} (hd : v.decision = some .notApplicable) (d : Decision)
    (vs : List Visit) : closing d (v :: vs) = (closing d vs).following v.lookups := by
  have hb (e : Effect) : broughtBy e (v :: vs) = broughtBy e vs := by
    cases e <;> simp [broughtBy, Visit.decides, hd, Effect.decision]
  have hf : faultsOf (v :: vs) = faultsOf vs := by simp [faultsOf, Visit.decides, hd]
  simp [closing, hb, hf, lookupsOf, Notes.following]

/-- A fold over a list with an empty slot, or one that reached a node without an algorithm. -/
theorem illFormed_eq (ctx : Context) :
    ctx.illFormed = (.indeterminate, ctx.after { codes := [.syntaxError] }) := by
  rw [Context.illFormed, Context.clearObligations_resetStatus,
    Context.report_after ctx {} (by simp) (by simp)]
  rfl

end Arbiter
