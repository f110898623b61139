import Arbiter.Proofs.Ending
import Arbiter.Proofs.Reporting

namespace Arbiter

/-- The codes say that an attribute was missed just if one is told. -/
def Notes.Linked (n : Notes) : Prop := .missingAttribute ∈ n.codes ↔ n.missing ≠ []

theorem Notes.Linked.of_none {n : Notes} (hc : n.codes = []) (hm : n.missing = []) : n.Linked := by
  simp [Notes.Linked, hc, hm]

theorem Notes.Linked.of_own {n : Notes} {c : StatusCode} (hn : c ≠ .missingAttribute)
    (hc : n.codes = [c]) (hm : n.missing = []) : n.Linked := by
  simp [Notes.Linked, hc, hm, hn.symm]

/-- A fault that a condition meets is a missing attribute or it is another. -/
theorem Matcher.outcome_linked (m : Matcher) (s : Source) (c : Condition) : (m.outcome s c).2.Linked := by
  cases m with
  | always r => exact .of_none rfl rfl
  | byValue =>
    simp only [outcome]
    split
    · exact .of_none rfl rfl
    · rename_i f _
      cases hf : f.error <;> simp [Notes.Linked, Error.status]

namespace Matching

theorem targetOutcome_linked (m : Matching) (c : Option Condition) : (m.targetOutcome c).2.Linked := by
  cases c with
  | none => exact .of_none rfl rfl
  | some c => exact m.target.outcome_linked m.source c

theorem conditionOutcome_linked (m : Matching) (c : Option Condition) :
    (m.conditionOutcome c).2.Linked := by
  cases c with
  | none => exact .of_none rfl rfl
  | some c => exact m.condition.outcome_linked m.source c

end Matching

theorem Rule.visit_linked (m : Matching) (r : Rule) : (r.visit m).Linked := by
  have ht := m.targetOutcome_linked r.target
  have hc := m.conditionOutcome_linked r.condition
  show (r.outcome m).2.Linked
  unfold Rule.outcome
  generalize m.targetOutcome r.target = o at ht ⊢
  generalize m.conditionOutcome r.condition = o' at hc ⊢
  rcases o with ⟨t, n⟩
  rcases o' with ⟨t', k⟩
  cases t with
  | unmatched => exact ht
  | indeterminate => exact ht
  | matched => cases t' <;> exact hc

/-- A code that stands in for a child without codes tells of no missing attribute. -/
theorem Visit.missingAttribute_mem_faultCodes {v : Visit} :
    .missingAttribute ∈ v.faultCodes ↔ .missingAttribute ∈ v.codes := by
  unfold faultCodes
  split
  · simp_all
  · rfl

/-- Faults gathered from children agree if those of the children do. -/
theorem Notes.Blames.linked {n : Notes} {vs : List Visit} (h : n.Blames vs)
    (hv : ∀ v ∈ vs, v.Linked) : n.Linked := by
  have hcodes : .missingAttribute ∈ n.codes ↔ ∃ v ∈ vs, .missingAttribute ∈ v.codes := by
    rw [h.codes, List.mem_flatMap]
    simp only [Visit.missingAttribute_mem_faultCodes]
  have hmissing : n.missing ≠ [] ↔ ∃ v ∈ vs, v.missing ≠ [] := by
    simp only [h.missing, ne_eq, List.eq_nil_iff_forall_not_mem, List.mem_eraseDups, List.mem_flatMap]
    grind
  rw [Notes.Linked, hcodes, hmissing]
  exact exists_congr fun v => and_congr_right fun hm => hv v hm

namespace Notes.Ends

variable {n : Notes} {vs : List Visit} {d : Decision}

theorem linked (h : n.Ends vs d) (hv : ∀ v ∈ vs, v.Linked) : n.Linked := by
  cases h with
  | settled _ hc hm => exact .of_none hc hm
  | blaming hws hb => exact hb.linked fun v hm => hv v (hws hm)
  | cut _ _ hc hm => exact .of_own (by decide) hc hm
  | contested hc hm => exact .of_own (by decide) hc hm

theorem nodup_missing (h : n.Ends vs d) : n.missing.Nodup := by
  cases h with
  | settled _ _ hm => simp [hm]
  | blaming _ hb => exact hb.nodup_missing
  | cut _ _ _ hm => simp [hm]
  | contested _ hm => simp [hm]

theorem codes_ne_nil (h : n.Ends vs .indeterminate) : n.codes ≠ [] := by
  cases h with
  | settled hd => exact absurd rfl hd
  | blaming _ hb => exact hb.codes_ne_nil
  | cut _ _ hc => simp [hc]
  | contested hc => simp [hc]

end Notes.Ends

/-- Status, missing attributes and obligations as they go with a decision. -/
structure StatusAgrees (d : Decision) (code : StatusCode) (codes : List StatusCode)
    (missing : List MissingAttribute) (obligations : List Obligation) : Prop where
  settled : d ≠ .indeterminate → code = .ok ∧ codes = [] ∧ missing = []
  /-- There is a code, and the first is the primary one. -/
  primary : d = .indeterminate → codes.head? = some code
  ok_notMem : .ok ∉ codes
  unbound : d = .indeterminate → obligations = []
  missing_iff : .missingAttribute ∈ codes ↔ missing ≠ []
  distinct : missing.Nodup

theorem StatusAgrees.code_mem {d : Decision} {code : StatusCode} {codes : List StatusCode}
    {missing : List MissingAttribute} {obligations : List Obligation}
    (h : StatusAgrees d code codes missing obligations) : code = .ok ∨ code ∈ codes := by
  by_cases hd : d = .indeterminate
  · exact .inr (List.mem_of_mem_head? (h.primary hd))
  · exact .inl (h.settled hd).1

def Context.Agrees (ctx : Context) (d : Decision) : Prop :=
  StatusAgrees d ctx.statusCode ctx.statusCodes ctx.missing ctx.obligations

theorem Notes.Fits.unbound {n : Notes} (h : n.Fits .indeterminate) : n.obligations = [] := by
  rw [List.eq_nil_iff_forall_not_mem]
  intro o ho
  have hd := h.bound o ho
  cases he : o.fulfillOn <;> simp [he, Effect.decision] at hd

theorem Notes.Ends.agrees {n : Notes} {vs : List Visit} {d : Decision} (h : n.Ends vs d)
    (hv : ∀ v ∈ vs, v.Linked) (hf : n.Fits d) (ctx : Context) : (ctx.after n).Agrees d where
  settled hd := by
    cases h with
    | settled _ hc hm => simp [Context.after, hc, hm]
    | blaming | cut | contested => exact absurd rfl hd
  primary hd := by
    subst hd
    obtain ⟨c, cs, hc⟩ := List.exists_cons_of_ne_nil h.codes_ne_nil
    simp [Context.after, hc]
  ok_notMem := hf.codes_ne_ok
  unbound hd := by
    subst hd
    exact hf.unbound
  missing_iff := h.linked hv
  distinct := h.nodup_missing

theorem illFormed_agrees (ctx : Context) :
    (ctx.after { codes := [.syntaxError] }).Agrees .indeterminate where
  settled hd := absurd rfl hd
  primary _ := rfl
  ok_notMem := show .ok ∉ [StatusCode.syntaxError] by decide
  unbound _ := rfl
  missing_iff := Notes.Linked.of_own (n := { codes := [.syntaxError] }) (by decide) rfl rfl
  distinct := List.nodup_nil

theorem RuleAlgorithm.outcome_agrees (a : RuleAlgorithm) (m : Matching)
    (slots : Option (List (Option Rule))) (ctx : Context) :
    (ctx.after (a.outcome m slots).2).Agrees (a.outcome m slots).1 := by
  cases h : allPresent? slots with
  | none =>
    rw [outcome, h]
    exact illFormed_agrees ctx
  | some rs =>
    have hlinked : ∀ v ∈ rs.map (·.visit m), v.Linked := by
      intro v hv
      obtain ⟨r, -, rfl⟩ := List.mem_map.mp hv
      exact r.visit_linked m
    rw [allPresent?_eq_some h]
    exact (a.outcome_ends m rs).agrees hlinked (a.outcome_fits m _) ctx

theorem PolicyAlgorithm.outcome_agrees {f : α → Visit} (a : PolicyAlgorithm) (ra : Bool)
    (slots : Option (List (Option α))) (hl : ∀ x ∈ presentIn slots, (f x).Linked)
    (hs : ∀ x ∈ presentIn slots, (f x).Sound) (ctx : Context) :
    (ctx.after (a.outcome f ra slots).2).Agrees (a.outcome f ra slots).1 := by
  have hfits := a.outcome_fits ra slots fun xs h x hx => hs x (mem_presentIn h hx)
  unfold outcome at hfits ⊢
  cases h : allPresent? slots with
  | none => exact illFormed_agrees ctx
  | some xs =>
    rw [h] at hfits
    have hlinked : ∀ v ∈ xs.map f, v.Linked := by
      intro v hv
      obtain ⟨x, hx, rfl⟩ := List.mem_map.mp hv
      exact hl x (mem_presentIn h hx)
    exact (a.foldOutcome_ends f ra xs).agrees hlinked hfits ctx

theorem screenedVisit_linked {m : Matching} {out : Option (Decision × Notes)}
    (h : ∀ o ∈ out, o.2.Linked) (target : Option Condition) (declared : List Obligation)
    (carries : Bool) : (screenedVisit m target out declared carries).Linked := by
  have ht := m.targetOutcome_linked target
  unfold screenedVisit
  generalize m.targetOutcome target = o at ht ⊢
  rcases o with ⟨t, n⟩
  cases t with
  | unmatched => exact ht
  | indeterminate => exact ht
  | matched =>
    cases out with
    | none => exact ht
    | some o => exact h o rfl

/-- Whatever a node comes to, its codes and the attributes it tells agree. -/
theorem Scene.alone_linked (s : Scene) (ctx : Context) (n : Node) : (s.alone ctx n).Linked := by
  induction ctx, n using s.induct with
  | policy ctx p =>
    rw [alone_policy]
    apply screenedVisit_linked
    intro o ho
    obtain ⟨a, -, rfl⟩ := Option.map_eq_some_iff.mp ho
    exact (a.outcome_agrees s.matching p.rules {}).missing_iff
  | policySet ctx h children ih =>
    rw [alone_policySet]
    apply screenedVisit_linked
    intro o ho
    obtain ⟨a, -, rfl⟩ := Option.map_eq_some_iff.mp ho
    have hsound : ∀ n ∈ presentIn children, (s.alone ctx n).Sound := fun n _ => s.alone_sound ctx n
    exact (a.outcome_agrees s.respectAbandoned children ih hsound {}).missing_iff
  | reference ctx id ih =>
    rw [alone_reference]
    split
    · rename_i n inner hn he
      exact ih n inner hn he
    · exact .of_own (by decide) rfl rfl

/-- Obligations aside, a context agrees with a decision if one that resembles it does. -/
theorem Context.Agrees.of_resembles {ctx ctx' : Context} {d : Decision} (h : ctx'.Agrees d)
    (hr : ctx.Resembles ctx') (hu : d = .indeterminate → ctx.obligations = []) : ctx.Agrees d := by
  obtain ⟨os, rfl⟩ := hr
  exact ⟨h.settled, h.primary, h.ok_notMem, hu, h.missing_iff, h.distinct⟩

namespace Scene

/-- Whatever a fold starts with and whatever it meets, it leaves what goes with its decision. -/
structure Coherent (s : Scene) (ctx : Context) : Prop where
  rules : ∀ (a : RuleAlgorithm) (slots : Option (List (Option Rule))),
    let out := s.combineRules a slots ctx
    out.2.Agrees out.1
  /-- Whether this fold respects abandoned children need not be as in the scene. -/
  nodes : ∀ (a : PolicyAlgorithm) (ra : Bool) (slots : Option (List (Option Node))),
    let out := a.combine ra (slots.map (·.map (·.map (s.childWithin (room ctx))))) ctx
    out.2.Agrees out.1

theorem coherent (s : Scene) (ctx : Context) : s.Coherent ctx where
  rules a slots := by
    have ho : ctx.clearObligations.obligations = [] := rfl
    obtain ⟨hfst, hsnd⟩ := s.combineRules_clearObligations a slots ctx
    rw [s.combineRules_eq a slots ho] at hfst hsnd
    have hagrees := a.outcome_agrees s.matching slots ctx.clearObligations
    rw [← hfst] at hagrees
    exact hagrees.of_resembles hsnd (a.combine_closed s.matching slots ctx).unbound
  nodes a ra slots := by
    obtain ⟨hfst, b, hsnd⟩ := s.combineNodes_resembles a ra slots ctx
    have hagrees := a.outcome_agrees ra slots (fun n _ => s.alone_linked ctx n)
      (fun n _ => s.alone_sound ctx n) (ctx.clearObligations.setTargetMatched b)
    rw [← hfst] at hagrees
    exact hagrees.of_resembles hsnd (a.combine_closed ra _ ctx).unbound

end Scene

end Arbiter
