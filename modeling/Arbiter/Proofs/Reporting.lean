import Arbiter.Proofs.Faults
import Arbiter.Proofs.Unburdened

namespace Arbiter

/-- The faults that an evaluation left. One that left no code counts as a processing error. -/
def Context.faults (ctx : Context) : Faults where
  codes := if ctx.statusCodes.isEmpty then [.processingError] else ctx.statusCodes
  missing := ctx.missing

/-- Faults that are made up of these: their codes one after another, and what they missed once each. -/
structure Faults.Gathers (f : Faults) (fs : List Faults) : Prop where
  codes : f.codes = fs.flatMap (·.codes)
  missing : f.missing = (fs.flatMap (·.missing)).eraseDups

/-- The context tells these faults and nothing else, the first code of all as the primary one. -/
structure Context.Reports (ctx : Context) (fs : List Faults) : Prop where
  gathers : Faults.Gathers ⟨ctx.statusCodes, ctx.missing⟩ fs
  primary : ctx.statusCodes.head? = some ctx.statusCode
  distinct : ctx.missing.Nodup

theorem Context.Reports.of_resembles {ctx ctx' : Context} {fs : List Faults} (h : ctx'.Reports fs)
    (hr : ctx.Resembles ctx') : ctx.Reports fs := by
  obtain ⟨os, rfl⟩ := hr
  exact ⟨h.gathers, h.primary, h.distinct⟩

def Visit.faults (v : Visit) : Faults := ⟨v.faultCodes, v.missing⟩

theorem Visit.faultCodes_ne_nil (v : Visit) : v.faultCodes ≠ [] := by
  unfold faultCodes
  split
  · simp
  · simp_all

namespace Notes.Blames

variable {n : Notes} {vs : List Visit}

theorem codes_ne_nil (h : n.Blames vs) : n.codes ≠ [] := by
  obtain ⟨v, hv⟩ := List.exists_mem_of_ne_nil vs h.any
  obtain ⟨c, hc⟩ := List.exists_mem_of_ne_nil _ v.faultCodes_ne_nil
  rw [h.codes]
  exact List.ne_nil_of_mem (List.mem_flatMap.mpr ⟨v, hv, hc⟩)

theorem nodup_missing (h : n.Blames vs) : n.missing.Nodup := by
  rw [h.missing, eraseDups_eq_addAllNew]
  exact nodup_addAllNew List.nodup_nil _

theorem reports (h : n.Blames vs) (ctx : Context) : (ctx.after n).Reports (vs.map (·.faults)) where
  gathers := by
    constructor
    · rw [List.flatMap_map]
      exact h.codes
    · rw [List.flatMap_map]
      exact h.missing
  primary := by
    obtain ⟨c, cs, hc⟩ := List.exists_cons_of_ne_nil h.codes_ne_nil
    simp [Context.after, hc]
  distinct := h.nodup_missing

/-- A node that hands on the faults of a fold. -/
theorem gathers (h : n.Blames vs) {v : Visit} (hc : v.codes = n.codes) (hm : v.missing = n.missing) :
    v.faults.Gathers (vs.map (·.faults)) where
  codes := by
    rw [List.flatMap_map]
    show v.faultCodes = _
    rw [Visit.faultCodes, hc, if_neg (by simpa using h.codes_ne_nil)]
    exact h.codes
  missing := by
    rw [List.flatMap_map]
    exact hm.trans h.missing

end Notes.Blames

/-- Faults gathered from others, which were gathered themselves. -/
theorem Faults.Gathers.flatMap {f : Faults} {xs : List α} {g : α → Faults} {fs : α → List Faults}
    (h : f.Gathers (xs.map g)) (hx : ∀ x ∈ xs, (g x).Gathers (fs x)) : f.Gathers (xs.flatMap fs) where
  codes := by
    rw [h.codes, List.flatMap_map, List.flatMap_assoc]
    exact congrArg List.flatten (List.map_congr_left fun x hm => (hx x hm).codes)
  missing := by
    have hmissing : (xs.flatMap fun x => (g x).missing) =
        xs.flatMap fun x => ((fs x).flatMap (·.missing)).eraseDups :=
      congrArg List.flatten (List.map_congr_left fun x hm => (hx x hm).missing)
    rw [h.missing, List.flatMap_map, hmissing, eraseDups_flatMap_eraseDups, List.flatMap_assoc]

theorem exists_of_each [Inhabited β] {xs : List α} {P : α → β → Prop} (h : ∀ x ∈ xs, ∃ y, P x y) :
    ∃ f : α → β, ∀ x ∈ xs, P x (f x) := by
  have htotal (x : α) : ∃ y, x ∈ xs → P x y := by
    by_cases hx : x ∈ xs
    · obtain ⟨y, hy⟩ := h x hx
      exact ⟨y, fun _ => hy⟩
    · exact ⟨default, fun hm => absurd hm hx⟩
  exact Classical.axiomOfChoice htotal

namespace Scene

/-- The rules an Indeterminate fold is to blame on, each evaluated alone. -/
def blamedRules (s : Scene) (ctx : Context) (a : RuleAlgorithm) (rs : List Rule) : List Rule :=
  a.faulty (fun r => (r.evaluate s.matching ctx.fresh).1) rs

/-- The children an Indeterminate fold is to blame on, each evaluated alone. -/
def blamed (s : Scene) (ctx : Context) (a : PolicyAlgorithm) (ns : List Node) : List Node :=
  a.faulty (fun n => (s.evaluateNode n ctx.fresh).1) (s.screening ctx) ns

/-- Where the faults of an Indeterminate node come from, in order. They were met at the node itself, by
its rules, or beneath it, on a path of nodes and rules that were all Indeterminate. -/
inductive Origins (s : Scene) : Context → Node → List Faults → Prop
  /-- The target could not be evaluated. -/
  | target {ctx n} : (s.matching.matchTarget n.target ctx.fresh).1 = .indeterminate →
      Origins s ctx n [(s.matching.matchTarget n.target ctx.fresh).2.faults]
  /-- The reference leads nowhere, or too deep. -/
  | astray {ctx id} : s.resolve id = none ∨ ctx.fresh.enterReference? = none →
      Origins s ctx (.reference id) [⟨[.processingError], []⟩]
  | behind {ctx inner id n fs} : s.resolve id = some n → ctx.fresh.enterReference? = some inner →
      Origins s inner n fs → Origins s ctx (.reference id) fs
  | emptyRule {ctx p} : allPresent? p.rules = none →
      Origins s ctx (.policy p) [⟨[.syntaxError], []⟩]
  | rules {ctx p a rs} : p.algorithm = some a → allPresent? p.rules = some rs →
      (∀ r ∈ s.blamedRules ctx a rs, (r.evaluate s.matching ctx.fresh).1 = .indeterminate) →
      Origins s ctx (.policy p)
        ((s.blamedRules ctx a rs).map fun r => (r.evaluate s.matching ctx.fresh).2.faults)
  | emptyChild {ctx h children} : allPresent? children = none →
      Origins s ctx (.policySet h children) [⟨[.syntaxError], []⟩]
  /-- A child was reached that has no algorithm, or reaches such a node itself. -/
  | cut {ctx h children ns n} : allPresent? children = some ns → n ∈ ns →
      (s.evaluateNode n ctx.fresh).1 = none →
      Origins s ctx (.policySet h children) [⟨[.syntaxError], []⟩]
  | contested {ctx h a children ns} : h.algorithm = some a → allPresent? children = some ns →
      a.Contested (s.screening ctx) ns →
      Origins s ctx (.policySet h children) [⟨[.processingError], []⟩]
  | children {ctx h a children ns} (fs : Node → List Faults) : h.algorithm = some a →
      allPresent? children = some ns → ¬ a.Contested (s.screening ctx) ns →
      (∀ n ∈ s.blamed ctx a ns, (s.evaluateNode n ctx.fresh).1 = some .indeterminate) →
      (∀ n ∈ s.blamed ctx a ns, Origins s ctx n (fs n)) →
      Origins s ctx (.policySet h children) ((s.blamed ctx a ns).flatMap fs)

theorem blamedRules_eq (s : Scene) (ctx : Context) (a : RuleAlgorithm) (rs : List Rule) :
    s.blamedRules ctx a rs = a.faulty (fun r => (r.outcome s.matching).1) rs := by
  simp only [blamedRules, Rule.evaluate_fresh]

theorem rule_faults (s : Scene) (ctx : Context) (r : Rule) :
    (r.evaluate s.matching ctx.fresh).2.faults = (r.visit s.matching).faults := by
  rw [Rule.evaluate_fresh]
  rfl

theorem blamed_eq (s : Scene) (ctx : Context) (a : PolicyAlgorithm) (ns : List Node) :
    s.blamed ctx a ns =
      a.faulty (fun n => (s.alone ctx n).decision) (fun n => (s.alone ctx n).screen) ns := by
  simp only [alone_screen]
  rfl

/-- A fold over rules that tells the faults of the rules blamed. -/
theorem blamedRules_spec (s : Scene) (ctx : Context) (a : RuleAlgorithm) (rs : List Rule)
    (hi : (a.outcome s.matching (some (rs.map some))).1 = .indeterminate) :
    (a.outcome s.matching (some (rs.map some))).2.Blames
        ((s.blamedRules ctx a rs).map (·.visit s.matching)) ∧
      ∀ r ∈ s.blamedRules ctx a rs, (r.evaluate s.matching ctx.fresh).1 = .indeterminate := by
  have hb := a.outcome_blames s.matching rs hi
  rw [← s.blamedRules_eq ctx] at hb
  refine ⟨hb, fun r hr => ?_⟩
  rw [Rule.evaluate_fresh]
  exact Option.some.inj (hb.indeterminate _ (List.mem_map_of_mem hr))

/-- The same for a fold over nodes. -/
theorem blamed_spec (s : Scene) (ctx : Context) (a : PolicyAlgorithm) (ra : Bool) {ns : List Node}
    (hv : ∀ n ∈ a.visited (s.alone ctx) ra ns, (s.alone ctx n).decision ≠ none)
    (hc : ¬ a.Contested (s.screening ctx) ns)
    (hi : (a.foldOutcome (s.alone ctx) ra ns).1 = .indeterminate) :
    (a.foldOutcome (s.alone ctx) ra ns).2.Blames ((s.blamed ctx a ns).map (s.alone ctx)) ∧
      ∀ n ∈ s.blamed ctx a ns, (s.evaluateNode n ctx.fresh).1 = some .indeterminate := by
  rw [← funext (s.alone_screen ctx)] at hc
  have hb := a.foldOutcome_blames (s.alone ctx) ra hv hc hi
  rw [← s.blamed_eq] at hb
  exact ⟨hb, fun n hn => hb.indeterminate _ (List.mem_map_of_mem hn)⟩

theorem targetOutcome_missing (m : Matching) (c : Option Condition) :
    (m.targetOutcome c).2.missing.eraseDups = (m.targetOutcome c).2.missing := by
  cases c with
  | none => rfl
  | some c =>
    simp only [Matching.targetOutcome]
    cases m.target with
    | always r => rfl
    | byValue =>
      simp only [Matcher.outcome]
      split
      · rfl
      · dsimp only
        split <;> simp [List.eraseDups_cons]

/-- An Indeterminate node has met its fault at its target, or in the rest of it. -/
theorem screenedVisit_indeterminate {m : Matching} {target : Option Condition}
    {out : Option (Decision × Notes)} {declared : List Obligation} {carries : Bool}
    (h : (screenedVisit m target out declared carries).decision = some .indeterminate) :
    ((m.targetOutcome target).1 = .indeterminate ∧
        (screenedVisit m target out declared carries).toNotes = (m.targetOutcome target).2) ∨
      ∃ n ds, out = some (.indeterminate, n) ∧
        (screenedVisit m target out declared carries).toNotes = n.following ds := by
  unfold screenedVisit at h ⊢
  generalize m.targetOutcome target = o at h ⊢
  obtain ⟨t, k⟩ := o
  cases t with
  | unmatched => simp at h
  | indeterminate => exact .inl ⟨rfl, rfl⟩
  | matched =>
    cases out with
    | none => simp at h
    | some o =>
      obtain ⟨d, n⟩ := o
      obtain rfl : d = .indeterminate := by simpa using h
      exact .inr ⟨n, k.lookups, rfl, rfl⟩

/-- The fault of a target, as the node leaves it. -/
theorem origins_target (s : Scene) {ctx : Context} {n : Node} {v : Visit}
    (ht : (s.matching.targetOutcome n.target).1 = .indeterminate)
    (hv : v.toNotes = (s.matching.targetOutcome n.target).2) :
    ∃ fs, s.Origins ctx n fs ∧ v.faults.Gathers fs := by
  have hm : s.matching.matchTarget n.target ctx.fresh =
      ((s.matching.targetOutcome n.target).1, ctx.fresh.after (s.matching.targetOutcome n.target).2) :=
    s.matching.matchTarget_after n.target ctx.fresh
  have hf : (s.matching.matchTarget n.target ctx.fresh).2.faults = v.faults := by
    rw [hm, Visit.faults, Visit.faultCodes, hv]
    rfl
  have hmissing : v.missing.eraseDups = v.missing := by
    rw [hv]
    exact targetOutcome_missing s.matching n.target
  refine ⟨_, .target (by rw [hm]; exact ht), ?_⟩
  rw [hf]
  exact ⟨by simp, by simpa [Visit.faults] using hmissing.symm⟩

/-- A fault that a node met itself. -/
theorem gathers_own {v : Visit} {c : StatusCode} (hc : v.codes = [c]) (hm : v.missing = []) :
    v.faults.Gathers [⟨[c], []⟩] := by
  constructor <;> simp [Visit.faults, Visit.faultCodes, hc, hm]

theorem reports_own {n : Notes} {c : StatusCode} (hc : n.codes = [c]) (hm : n.missing = [])
    (ctx : Context) : (ctx.after n).Reports [⟨[c], []⟩] := by
  refine ⟨⟨hc, hm⟩, ?_, ?_⟩
  · simp [Context.after, hc]
  · simp [Context.after, hm]

theorem origins_policy (s : Scene) (ctx : Context) {p : Policy}
    (h : (p.visit s).decision = some .indeterminate) :
    ∃ fs, s.Origins ctx (.policy p) fs ∧ (p.visit s).faults.Gathers fs := by
  rcases screenedVisit_indeterminate h with ⟨ht, hv⟩ | ⟨n, ds, hout, hv⟩
  · exact s.origins_target ht hv
  · have hvis : (p.visit s).toNotes = n.following ds := hv
    obtain ⟨a, ha, hdn⟩ := Option.map_eq_some_iff.mp hout
    cases hp : allPresent? p.rules with
    | none =>
      rw [RuleAlgorithm.outcome, hp] at hdn
      obtain rfl : { codes := [.syntaxError] } = n := congrArg (·.2) hdn
      exact ⟨_, .emptyRule hp, gathers_own (by rw [hvis]; rfl) (by rw [hvis]; rfl)⟩
    | some rs =>
      rw [allPresent?_eq_some hp] at hdn
      obtain ⟨hb, hind⟩ := s.blamedRules_spec ctx a rs (congrArg (·.1) hdn)
      rw [hdn] at hb
      have hg := hb.gathers (v := p.visit s) (by rw [hvis]; rfl) (by rw [hvis]; rfl)
      refine ⟨_, .rules ha hp hind, ?_⟩
      simp only [rule_faults]
      rwa [List.map_map] at hg

/-- What a policy set hands on of a fold over its children, which gathered their faults themselves. -/
theorem origins_children (s : Scene) (ctx : Context) {h : PolicySetHeader} {a : PolicyAlgorithm}
    {children : Option (List (Option Node))} {ns : List Node} {v : Visit}
    (ha : h.algorithm = some a) (hp : allPresent? children = some ns)
    (hi : (a.foldOutcome (s.alone ctx) s.respectAbandoned ns).1 = .indeterminate)
    (hc : v.codes = (a.foldOutcome (s.alone ctx) s.respectAbandoned ns).2.codes)
    (hm : v.missing = (a.foldOutcome (s.alone ctx) s.respectAbandoned ns).2.missing)
    (ih : ∀ n ∈ presentIn children, (s.alone ctx n).decision = some .indeterminate →
      ∃ fs, s.Origins ctx n fs ∧ (s.alone ctx n).faults.Gathers fs) :
    ∃ fs, s.Origins ctx (.policySet h children) fs ∧ v.faults.Gathers fs := by
  by_cases hcut : ∃ m ∈ a.visited (s.alone ctx) s.respectAbandoned ns, (s.alone ctx m).decision = none
  · rw [a.foldOutcome_cut (s.alone ctx) s.respectAbandoned hcut] at hc hm
    obtain ⟨m, hmem, hnone⟩ := hcut
    exact ⟨_, .cut hp ((a.visited_sublist s.respectAbandoned ns).subset hmem) hnone, gathers_own hc hm⟩
  have hvis : ∀ m ∈ a.visited (s.alone ctx) s.respectAbandoned ns, (s.alone ctx m).decision ≠ none :=
    fun m hm hnone => hcut ⟨m, hm, hnone⟩
  by_cases hcon : a.Contested (s.screening ctx) ns
  · have hcon' := hcon
    rw [← funext (s.alone_screen ctx)] at hcon'
    obtain ⟨-, hcodes, hmissing⟩ := a.foldOutcome_contested (s.alone ctx) s.respectAbandoned hvis hcon'
    exact ⟨_, .contested ha hp hcon, gathers_own (hc.trans hcodes) (hm.trans hmissing)⟩
  · obtain ⟨hb, hind⟩ := s.blamed_spec ctx a s.respectAbandoned hvis hcon hi
    obtain ⟨fs, hfs⟩ := exists_of_each fun m hm =>
      ih m (mem_presentIn hp (a.mem_of_mem_faulty hm)) (hind m hm)
    have hg := hb.gathers hc hm
    rw [List.map_map] at hg
    exact ⟨_, .children fs ha hp hcon hind fun m hm => (hfs m hm).1,
      hg.flatMap fun m hm => (hfs m hm).2⟩

/-- A policy set gathers what its children gathered. -/
theorem origins_policySet (s : Scene) (ctx : Context) {h : PolicySetHeader}
    {children : Option (List (Option Node))}
    (hi : (s.alone ctx (.policySet h children)).decision = some .indeterminate)
    (ih : ∀ n ∈ presentIn children, (s.alone ctx n).decision = some .indeterminate →
      ∃ fs, s.Origins ctx n fs ∧ (s.alone ctx n).faults.Gathers fs) :
    ∃ fs, s.Origins ctx (.policySet h children) fs ∧
      (s.alone ctx (.policySet h children)).faults.Gathers fs := by
  rw [alone_policySet] at hi ⊢
  rcases screenedVisit_indeterminate hi with ⟨ht, hv⟩ | ⟨n, ds, hout, hv⟩
  · exact s.origins_target ht hv
  · generalize screenedVisit s.matching h.target _ _ _ = v at hi hv ⊢
    obtain ⟨a, ha, hdn⟩ := Option.map_eq_some_iff.mp hout
    cases hp : allPresent? children with
    | none =>
      rw [PolicyAlgorithm.outcome, hp] at hdn
      obtain rfl : { codes := [.syntaxError] } = n := congrArg (·.2) hdn
      exact ⟨_, .emptyChild hp, gathers_own (by rw [hv]; rfl) (by rw [hv]; rfl)⟩
    | some ns =>
      rw [PolicyAlgorithm.outcome, hp] at hdn
      have hfold : a.foldOutcome (s.alone ctx) s.respectAbandoned ns = (.indeterminate, n) := hdn
      exact s.origins_children ctx ha hp (congrArg (·.1) hfold) (by rw [hv, hfold]; rfl)
        (by rw [hv, hfold]; rfl) ih

/-- Every Indeterminate node has an account of its faults. -/
theorem exists_origins (s : Scene) (ctx : Context) (n : Node)
    (hi : (s.alone ctx n).decision = some .indeterminate) :
    ∃ fs, s.Origins ctx n fs ∧ (s.alone ctx n).faults.Gathers fs := by
  induction ctx, n using s.induct with
  | policy ctx p =>
    rw [alone_policy] at hi ⊢
    exact s.origins_policy ctx hi
  | policySet ctx h children ih => exact s.origins_policySet ctx hi ih
  | reference ctx id ih =>
    rw [alone_reference] at hi ⊢
    cases hid : s.resolve id with
    | none => exact ⟨_, .astray (.inl hid), gathers_own rfl rfl⟩
    | some m =>
      cases he : ctx.fresh.enterReference? with
      | none => exact ⟨_, .astray (.inr he), gathers_own rfl rfl⟩
      | some inner =>
        rw [hid, he] at hi
        obtain ⟨fs, horigins, hg⟩ := ih m inner hid he hi
        exact ⟨fs, .behind hid he horigins, hg⟩

/-- Children that all decide are never cut short. -/
theorem visited_decided (s : Scene) {ctx : Context} (a : PolicyAlgorithm) (ra : Bool) {ns : List Node}
    (hd : ∀ n ∈ ns, (s.evaluateNode n ctx.fresh).1 ≠ none) :
    ∀ n ∈ a.visited (s.alone ctx) ra ns, (s.alone ctx n).decision ≠ none :=
  fun n hn => hd n ((a.visited_sublist ra ns).subset hn)

theorem combineRules_reports (s : Scene) (a : RuleAlgorithm) (rs : List Rule) (ctx : Context)
    (hi : (s.combineRules a (some (rs.map some)) ctx).1 = .indeterminate) :
    (∀ r ∈ s.blamedRules ctx a rs, (r.evaluate s.matching ctx.fresh).1 = .indeterminate) ∧
      (s.combineRules a (some (rs.map some)) ctx).2.Reports
        ((s.blamedRules ctx a rs).map fun r => (r.evaluate s.matching ctx.fresh).2.faults) := by
  have ho : ctx.clearObligations.obligations = [] := rfl
  obtain ⟨hfst, hsnd⟩ := s.combineRules_clearObligations a (some (rs.map some)) ctx
  rw [s.combineRules_eq a _ ho] at hfst hsnd
  obtain ⟨hb, hind⟩ := s.blamedRules_spec ctx a rs (hfst.symm.trans hi)
  have hr := (hb.reports ctx.clearObligations).of_resembles hsnd
  rw [List.map_map] at hr
  simp only [rule_faults]
  exact ⟨hind, hr⟩

theorem combineNodes_reports (s : Scene) (a : PolicyAlgorithm) (ra : Bool) (ns : List Node)
    (ctx : Context) :
    let out := a.combine ra (some (ns.map fun n => some (s.childWithin (room ctx) n))) ctx
    (∀ n ∈ ns, (s.evaluateNode n ctx.fresh).1 ≠ none) → ¬ a.Contested (s.screening ctx) ns →
      out.1 = .indeterminate →
        (∀ n ∈ s.blamed ctx a ns, (s.evaluateNode n ctx.fresh).1 = some .indeterminate) ∧
          out.2.Reports ((s.blamed ctx a ns).map fun n => (s.evaluateNode n ctx.fresh).2.faults) := by
  intro out hd hc hi
  obtain ⟨hfst, ctx', hsnd⟩ := s.combine_resembles a ra ns ctx
  obtain ⟨hb, hind⟩ := s.blamed_spec ctx a ra (s.visited_decided a ra hd) hc (hfst.symm.trans hi)
  have hr := (hb.reports ctx').of_resembles hsnd
  rw [List.map_map] at hr
  exact ⟨hind, hr⟩

/-- What Indeterminate evaluations report, on a context that earlier ones may have used. The children of
a fold are told by what they come to alone, on a fresh context of the same depth. -/
structure ReportsFaults (s : Scene) (ctx : Context) : Prop where
  rules : ∀ (a : RuleAlgorithm) (rs : List Rule),
    let out := s.combineRules a (some (rs.map some)) ctx
    out.1 = .indeterminate →
      (∀ r ∈ s.blamedRules ctx a rs, (r.evaluate s.matching ctx.fresh).1 = .indeterminate) ∧
        out.2.Reports ((s.blamedRules ctx a rs).map fun r => (r.evaluate s.matching ctx.fresh).2.faults)
  /-- Whether this fold respects abandoned children need not be as in the scene. -/
  nodes : ∀ (a : PolicyAlgorithm) (ra : Bool) (ns : List Node),
    let out := a.combine ra (some (ns.map fun n => some (s.childWithin (room ctx) n))) ctx
    (∀ n ∈ ns, (s.evaluateNode n ctx.fresh).1 ≠ none) → ¬ a.Contested (s.screening ctx) ns →
      out.1 = .indeterminate →
        (∀ n ∈ s.blamed ctx a ns, (s.evaluateNode n ctx.fresh).1 = some .indeterminate) ∧
          out.2.Reports ((s.blamed ctx a ns).map fun n => (s.evaluateNode n ctx.fresh).2.faults)
  contested : ∀ (a : PolicyAlgorithm) (ra : Bool) (ns : List Node),
    let out := a.combine ra (some (ns.map fun n => some (s.childWithin (room ctx) n))) ctx
    (∀ n ∈ ns, (s.evaluateNode n ctx.fresh).1 ≠ none) → a.Contested (s.screening ctx) ns →
      out.1 = .indeterminate ∧ out.2.Reports [⟨[.processingError], []⟩]
  /-- Over all levels, a fold reports each fault where it was met. -/
  nested : ∀ (a : PolicyAlgorithm) (ra : Bool) (ns : List Node),
    let out := a.combine ra (some (ns.map fun n => some (s.childWithin (room ctx) n))) ctx
    (∀ n ∈ ns, (s.evaluateNode n ctx.fresh).1 ≠ none) → ¬ a.Contested (s.screening ctx) ns →
      out.1 = .indeterminate →
        ∃ fs : Node → List Faults, (∀ n ∈ s.blamed ctx a ns, s.Origins ctx n (fs n)) ∧
          out.2.Reports ((s.blamed ctx a ns).flatMap fs)
  node : ∀ n : Node, (s.evaluateNode n ctx.fresh).1 = some .indeterminate →
    ∃ fs, s.Origins ctx n fs ∧ (s.evaluateNode n ctx.fresh).2.faults.Gathers fs

theorem reportsFaults (s : Scene) (ctx : Context) : s.ReportsFaults ctx where
  rules a rs := s.combineRules_reports a rs ctx
  nodes a ra ns := s.combineNodes_reports a ra ns ctx
  contested a ra ns hd hc := by
    obtain ⟨hfst, ctx', hsnd⟩ := s.combine_resembles a ra ns ctx
    rw [← funext (s.alone_screen ctx)] at hc
    obtain ⟨hi, hcodes, hmissing⟩ :=
      a.foldOutcome_contested (s.alone ctx) ra (s.visited_decided a ra hd) hc
    exact ⟨hfst.trans hi, (reports_own hcodes hmissing ctx').of_resembles hsnd⟩
  nested a ra ns hd hc hi := by
    obtain ⟨hind, hr⟩ := s.combineNodes_reports a ra ns ctx hd hc hi
    obtain ⟨fs, hfs⟩ := exists_of_each fun n hn => s.exists_origins ctx n (hind n hn)
    exact ⟨fs, fun n hn => (hfs n hn).1, hr.gathers.flatMap fun n hn => (hfs n hn).2, hr.primary,
      hr.distinct⟩
  node n hi := s.exists_origins ctx n hi

/-- An attribute that two references miss is told once, though both are blamed, and the policy that
permits between them is not. -/
theorem reportsFaults_missing :
    let role : Designator := { category := .subject, attributeId := "role", mustBePresent := true }
    let p := { Policy.always "p" .deny [] with
      target := some { operator := .present, designator := some role } }
    let q := { Policy.always "q" .deny [] with target := some { operator := .not } }
    let s := leadingTo (.policy p)
    let ns := [.policy q, .reference "p", .policy (.always "r" .permit []), .reference "p"]
    let out := s.combineNodes .denyOverrides (some (ns.map some))
      { statusCode := .processingError, obligations := [⟨"audit", .permit, []⟩] }
    out.1 = .indeterminate ∧ out.2.statusCode = .syntaxError ∧
      out.2.statusCodes = [.syntaxError, .missingAttribute, .missingAttribute] ∧
      out.2.missing = [role.missing] := by
  intro role p q s ns out
  obtain ⟨-, hr⟩ := (s.reportsFaults
    { statusCode := .processingError, obligations := [⟨"audit", .permit, []⟩] }).nodes
    .denyOverrides false ns (by decide) id (by decide)
  have hcodes : out.2.statusCodes = [.syntaxError, .missingAttribute, .missingAttribute] :=
    hr.gathers.codes.trans (by decide)
  have hprimary : out.2.statusCodes.head? = some out.2.statusCode := hr.primary
  rw [hcodes] at hprimary
  exact ⟨by decide, (Option.some.inj hprimary).symm, hcodes, hr.gathers.missing.trans (by decide)⟩

end Scene

end Arbiter
