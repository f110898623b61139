import Arbiter.Policy.Validity
import Arbiter.Proofs.Condition
import Arbiter.Proofs.Ending
import Arbiter.Proofs.Reach

/-! Validity and evaluation: nodes that are refused for nothing and have no defect are evaluated without
a syntax error.

Three traversals are related: the check before a node is stored, the search for defects, and the
evaluation, which goes on to what references lead to. -/

namespace Arbiter

theorem allPresent?_isSome_iff {slots : List (Option α)} :
    (allPresent? (some slots)).isSome ↔ none ∉ slots := by
  simp only [allPresent?]
  induction slots with
  | nil => simp
  | cons slot slots ih =>
    cases slot with
    | none => simp
    | some x => cases h : slots.mapM id <;> simp_all

namespace Node

/-- The targets and conditions of a node itself and of its rules. -/
def conditions : Node → List Condition
  | policy p =>
    p.target.toList ++ p.presentRules.flatMap fun r => r.target.toList ++ r.condition.toList
  | policySet h _ => h.target.toList
  | reference _ => []

/-- There is an algorithm, and a list for it in which no slot is empty. -/
def WellFormed : Node → Prop
  | policy p => p.algorithm.isSome ∧ (allPresent? p.rules).isSome
  | policySet h children => h.algorithm.isSome ∧ (allPresent? children).isSome
  | reference _ => True

/-- A node and all that is beneath it in its tree. -/
inductive Contains : Node → Node → Prop
  | self (n : Node) : Contains n n
  | child {h children n m} : n ∈ presentIn children → Contains n m → Contains (policySet h children) m

theorem Contains.trans {n m k : Node} (hm : n.Contains m) (hk : m.Contains k) : n.Contains k := by
  induction hm with
  | self => exact hk
  | child hn _ ih => exact .child hn (ih hk)

end Node

theorem conditionInvalid?_eq_none {c : Option Condition} (h : conditionInvalid? c = none) :
    ∀ d ∈ c.toList, d.flaw? = none := by
  intro d hd
  obtain rfl : c = some d := by simpa using hd
  simpa [conditionInvalid?] using h

theorem Policy.ruleInvalid?_eq_none {i : Nat} {rs : List Rule} (h : ruleInvalid? i rs = none) :
    ∀ r ∈ rs, r.invalid? = none := by
  induction rs generalizing i with
  | nil => simp
  | cons r rs ih =>
    obtain ⟨hr, hrs⟩ := Option.or_eq_none_iff.mp h
    intro r' hm
    rcases List.mem_cons.mp hm with rfl | hm
    · simpa using hr
    · exact ih hrs r' hm

theorem Rule.flaw?_eq_none {r : Rule} (h : r.invalid? = none) :
    ∀ c ∈ r.target.toList ++ r.condition.toList, c.flaw? = none := by
  unfold invalid? at h
  split at h
  · cases h
  · obtain ⟨ht, hc⟩ := Option.or_eq_none_iff.mp h
    intro c hm
    rcases List.mem_append.mp hm with hm | hm
    · exact conditionInvalid?_eq_none ht c hm
    · exact conditionInvalid?_eq_none hc c hm

namespace Node

/-- The check looks at every condition of a node, through all the conditions it joins. -/
theorem flaw?_eq_none {n : Node} (h : n.invalid? = none) : ∀ c ∈ n.conditions, c.flaw? = none := by
  cases n with
  | reference id => simp [conditions]
  | policySet header children =>
    unfold invalid? at h
    split at h
    · cases h
    · exact conditionInvalid?_eq_none (Option.or_eq_none_iff.mp h).1
  | policy p =>
    simp only [invalid?, Policy.invalid?] at h
    split at h
    · cases h
    · obtain ⟨ht, hr⟩ := Option.or_eq_none_iff.mp h
      intro c hc
      rcases List.mem_append.mp hc with hc | hc
      · exact conditionInvalid?_eq_none ht c hc
      · obtain ⟨r, hrm, hcm⟩ := List.mem_flatMap.mp hc
        exact Rule.flaw?_eq_none (Policy.ruleInvalid?_eq_none hr r hrm) c hcm

theorem slotsInvalid?_eq_none {slots : List (Option Node)} (h : slotsInvalid? slots = none) :
    ∀ n ∈ presentIn (some slots), n.invalid? = none := by
  induction slots with
  | nil => simp [presentIn]
  | cons slot slots ih =>
    obtain ⟨hslot, hrest⟩ := Option.or_eq_none_iff.mp h
    cases slot with
    | none => exact ih hrest
    | some m =>
      intro n hn
      rcases List.mem_cons.mp hn with rfl | hn
      · exact hslot
      · exact ih hrest n hn

theorem invalid?_child {header : PolicySetHeader} {children : Option (List (Option Node))}
    (h : (policySet header children).invalid? = none) : ∀ n ∈ presentIn children, n.invalid? = none := by
  unfold invalid? at h
  split at h
  · cases h
  · cases children with
    | none => simp [presentIn]
    | some slots => exact slotsInvalid?_eq_none (Option.or_eq_none_iff.mp h).2

theorem slotsDefects_eq_nil {set : String} {i : Nat} {slots : List (Option Node)}
    (h : slotsDefects set i slots = []) :
    none ∉ slots ∧ ∀ n ∈ presentIn (some slots), n.defects = [] := by
  induction slots generalizing i with
  | nil => simp [presentIn]
  | cons slot slots ih =>
    obtain ⟨hslot, hrest⟩ := List.append_eq_nil_iff.mp h
    obtain ⟨hfull, hnone⟩ := ih hrest
    cases slot with
    | none => simp [slotDefects] at hslot
    | some m =>
      refine ⟨by simpa using hfull, ?_⟩
      intro n hn
      rcases List.mem_cons.mp hn with rfl | hn
      · exact hslot
      · exact hnone n hn

theorem childrenDefects_eq_nil {set : String} {children : Option (List (Option Node))}
    (h : childrenDefects set children = []) :
    (allPresent? children).isSome ∧ ∀ n ∈ presentIn children, n.defects = [] := by
  cases children with
  | none => simp [childrenDefects] at h
  | some slots =>
    obtain ⟨hfull, hnone⟩ := slotsDefects_eq_nil h
    exact ⟨allPresent?_isSome_iff.mpr hfull, hnone⟩

theorem emptySlots_eq_nil {id : String} {i : Nat} {slots : List (Option Rule)}
    (h : Policy.emptySlots id i slots = []) : none ∉ slots := by
  induction slots generalizing i with
  | nil => simp
  | cons slot slots ih =>
    cases slot with
    | none => simp [Policy.emptySlots] at h
    | some r => simpa using ih h

theorem wellFormed_of_defects {n : Node} (h : n.defects = []) : n.WellFormed := by
  cases n with
  | reference id => trivial
  | policy p =>
    obtain ⟨ha, hr⟩ := List.append_eq_nil_iff.mp h
    refine ⟨by cases hp : p.algorithm <;> simp_all, ?_⟩
    unfold Policy.ruleListDefects at hr
    cases hp : p.rules with
    | none => simp [hp] at hr
    | some slots =>
      rw [hp] at hr
      exact allPresent?_isSome_iff.mpr (emptySlots_eq_nil hr)
  | policySet header children =>
    obtain ⟨ha, hc⟩ := List.append_eq_nil_iff.mp h
    exact ⟨by cases hp : header.algorithm <;> simp_all, (childrenDefects_eq_nil hc).1⟩

/-- What is found of a node is found of all it contains. -/
theorem Contains.valid {n m : Node} (hm : n.Contains m) (hi : n.invalid? = none) (hd : n.defects = []) :
    m.invalid? = none ∧ m.defects = [] := by
  induction hm with
  | self => exact ⟨hi, hd⟩
  | child hn _ ih =>
    have hchildren := (childrenDefects_eq_nil (List.append_eq_nil_iff.mp hd).2).2
    exact ih (invalid?_child hi _ hn) (hchildren _ hn)

end Node

/-- A visit that was not cut short and tells of no syntax error. -/
structure Visit.Unbroken (v : Visit) : Prop where
  decided : v.decision ≠ none
  codes : .syntaxError ∉ v.codes

theorem Notes.Ends.syntaxError_notMem {n : Notes} {vs : List Visit} {d : Decision} (h : n.Ends vs d)
    (hv : ∀ v ∈ vs, v.Unbroken) : .syntaxError ∉ n.codes := by
  intro hc
  rcases h.mem_codes hc with hp | ⟨v, hm, hcv⟩ | ⟨v, hm, hd⟩
  · simp at hp
  · exact (hv v hm).codes hcv
  · exact (hv v hm).decided hd

/-- Targets and conditions are matched by their truth values. -/
structure Matching.Plain (m : Matching) : Prop where
  target : m.target = .byValue
  condition : m.condition = .byValue

namespace Matching

variable {m : Matching} {c : Option Condition}

theorem outcome_unbroken {s : Source} {c : Condition} (h : (c.evaluate s).Proper) :
    .syntaxError ∉ (Matcher.byValue.outcome s c).2.codes := by
  simp only [Matcher.outcome]
  split
  · simp
  · rename_i f hf
    simpa using (h f hf).status_ne.symm

theorem targetOutcome_unbroken (hm : m.Plain) (h : ∀ d ∈ c.toList, (d.evaluate m.source).Proper) :
    .syntaxError ∉ (m.targetOutcome c).2.codes := by
  cases c with
  | none => simp [targetOutcome]
  | some d =>
    rw [targetOutcome, hm.target]
    exact outcome_unbroken (h d (by simp))

theorem conditionOutcome_unbroken (hm : m.Plain) (h : ∀ d ∈ c.toList, (d.evaluate m.source).Proper) :
    .syntaxError ∉ (m.conditionOutcome c).2.codes := by
  cases c with
  | none => simp [conditionOutcome]
  | some d =>
    rw [conditionOutcome, hm.condition]
    exact outcome_unbroken (h d (by simp))

end Matching

theorem Rule.visit_unbroken {m : Matching} (hm : m.Plain) {r : Rule}
    (h : ∀ c ∈ r.target.toList ++ r.condition.toList, (c.evaluate m.source).Proper) :
    (r.visit m).Unbroken := by
  have ht := Matching.targetOutcome_unbroken hm fun d hd => h d (List.mem_append_left _ hd)
  have hc := Matching.conditionOutcome_unbroken hm fun d hd => h d (List.mem_append_right _ hd)
  refine ⟨by simp [visit], ?_⟩
  show .syntaxError ∉ (r.outcome m).2.codes
  unfold outcome
  generalize m.targetOutcome r.target = o at ht ⊢
  generalize m.conditionOutcome r.condition = o' at hc ⊢
  rcases o with ⟨t, n⟩
  rcases o' with ⟨t', k⟩
  cases t with
  | unmatched => exact ht
  | indeterminate => exact ht
  | matched => cases t' <;> exact hc

theorem screenedVisit_unbroken {m : Matching} {target : Option Condition}
    {out : Option (Decision × Notes)} (ht : .syntaxError ∉ (m.targetOutcome target).2.codes)
    (hsome : out.isSome) (ho : ∀ o ∈ out, .syntaxError ∉ o.2.codes) (declared : List Obligation)
    (carries : Bool) : (screenedVisit m target out declared carries).Unbroken := by
  refine ⟨Scene.screenedVisit_decided hsome declared carries, ?_⟩
  unfold screenedVisit
  generalize m.targetOutcome target = t at ht ⊢
  rcases t with ⟨t, n⟩
  cases t with
  | unmatched => exact ht
  | indeterminate => exact ht
  | matched =>
    obtain ⟨o, rfl⟩ := Option.isSome_iff_exists.mp hsome
    exact ho o rfl

theorem RuleAlgorithm.outcome_unbroken (a : RuleAlgorithm) {m : Matching}
    {slots : Option (List (Option Rule))} (hs : (allPresent? slots).isSome)
    (hr : ∀ r ∈ presentIn slots, (r.visit m).Unbroken) : .syntaxError ∉ (a.outcome m slots).2.codes := by
  obtain ⟨rs, hrs⟩ := Option.isSome_iff_exists.mp hs
  have hslots := allPresent?_eq_some hrs
  rw [hslots]
  apply (a.outcome_ends m rs).syntaxError_notMem
  intro v hv
  obtain ⟨r, hm, rfl⟩ := List.mem_map.mp hv
  exact hr r (mem_presentIn hrs hm)

theorem PolicyAlgorithm.outcome_unbroken {f : α → Visit} (a : PolicyAlgorithm) (ra : Bool)
    {slots : Option (List (Option α))} (hs : (allPresent? slots).isSome)
    (hf : ∀ x ∈ presentIn slots, (f x).Unbroken) : .syntaxError ∉ (a.outcome f ra slots).2.codes := by
  obtain ⟨xs, hxs⟩ := Option.isSome_iff_exists.mp hs
  rw [outcome, hxs]
  apply (a.foldOutcome_ends f ra xs).syntaxError_notMem
  intro v hv
  obtain ⟨x, hm, rfl⟩ := List.mem_map.mp hv
  exact hf x (mem_presentIn hxs hm)

namespace Scene

/-- Whatever a node reaches can be combined, and its conditions fail for the request alone. -/
def Orderly (s : Scene) (n : Node) : Prop :=
  ∀ m, s.Reaches n m → m.WellFormed ∧ ∀ c ∈ m.conditions, (c.evaluate s.matching.source).Proper

theorem alone_unbroken {s : Scene} (hs : s.matching.Plain) (ctx : Context) (n : Node)
    (h : s.Orderly n) : (s.alone ctx n).Unbroken := by
  induction ctx, n using s.induct with
  | policy ctx p =>
    obtain ⟨⟨halg, hrules⟩, hproper⟩ := h _ (.self _)
    rw [alone_policy]
    apply screenedVisit_unbroken
    · exact Matching.targetOutcome_unbroken hs fun d hd => hproper d (List.mem_append_left _ hd)
    · simpa using halg
    · intro o ho
      obtain ⟨a, -, rfl⟩ := Option.map_eq_some_iff.mp ho
      refine a.outcome_unbroken hrules fun r hr => Rule.visit_unbroken hs fun c hc => ?_
      exact hproper c (List.mem_append_right _ (List.mem_flatMap.mpr ⟨r, hr, hc⟩))
  | policySet ctx header children ih =>
    obtain ⟨⟨halg, hchildren⟩, hproper⟩ := h _ (.self _)
    rw [alone_policySet]
    apply screenedVisit_unbroken
    · exact Matching.targetOutcome_unbroken hs hproper
    · simpa using halg
    · intro o ho
      obtain ⟨a, -, rfl⟩ := Option.map_eq_some_iff.mp ho
      refine a.outcome_unbroken s.respectAbandoned hchildren fun n hn => ih n hn ?_
      exact fun m hm => h m (.child hn hm)
  | reference ctx id ih =>
    rw [alone_reference]
    split
    · rename_i n inner hn he
      have hfound := ih n inner hn he fun m hm => h m (.reference hn hm)
      exact ⟨hfound.decided, hfound.codes⟩
    · exact ⟨by simp [lostVisit], by simp [lostVisit]⟩

end Scene

end Arbiter
