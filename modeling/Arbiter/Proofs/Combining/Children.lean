import Arbiter.Proofs.Combining.Outcome

/-! Running the folds over the children of a policy set.

A child is known by its visit: on every context of so much room it comes to the same. So every fold
comes to its outcome, on every such context without obligations. -/

namespace Arbiter

namespace Visit

/-- The target flag afterwards. A child that reached a node without an algorithm leaves it alone. -/
def flag (v : Visit) (before : Bool) : Bool := if v.decision.isSome then v.applicable else before

/-- What a run gives that comes to this visit. -/
def result (v : Visit) (ctx : Context) : Option Decision × Context :=
  (v.decision, (ctx.setTargetMatched (v.flag ctx.targetMatched)).after v.toNotes)

end Visit

namespace Child

/-- On every context on which nothing has happened yet and that leaves so much room for references,
the child comes to `v`. -/
structure ComesTo (c : Child) (room : Nat) (v : Visit) : Prop where
  declared : c.declared = v.declared
  carries : c.carries = v.carries
  run : ∀ ctx, Scene.room ctx = room → c.run (ctx.after {}) = v.result ctx

end Child

namespace ChildTally

/-- What an overriding fold keeps after these visits. -/
def ofVisits (vs : List Visit) : ChildTally where
  harvest := vs.flatMap (·.harvest)
  faults := faultsOf vs
  permitted := vs.any (·.decides .permit)
  denied := vs.any (·.decides .deny)

theorem has_ofVisits (vs : List Visit) (e : Effect) :
    (ofVisits vs).has e = vs.any (·.decides e.decision) := by
  cases e <;> rfl

theorem note_ofVisits (vs : List Visit) {v : Visit} {d : Decision} (hd : v.decision = some d)
    {ctx : Context} (hc : ctx.statusCodes = v.codes) (hm : ctx.missing = v.missing) :
    (ofVisits vs).note d ((ofVisits vs).harvest ++ v.harvest) ctx = ofVisits (vs ++ [v]) := by
  have hf := faultsOf_append_of_not v vs
  have hr := @faultsOf_record vs ctx v
  cases d <;> simp_all [note, ofVisits, Visit.decides]

theorem conclude_ofVisits (winner : Effect) {vs : List Visit} (hs : ∀ v ∈ vs, v.Sound)
    (hn : vs.any (·.decision.isNone) = false) (ctx : Context) :
    (ofVisits vs).conclude winner ctx =
      ((rankedOutcome (foremost (rankOrder winner)) vs).1,
        ctx.after { (rankedOutcome (foremost (rankOrder winner)) vs).2 with lookups := [] }) := by
  have he : (ofVisits vs).faults.isEmpty = !decide (.indeterminate ∈ decisionsOf vs) := by
    rw [← any_decides, ← faultsOf_isEmpty]
    rfl
  have hp : (ofVisits vs).permitted = decide (.permit ∈ decisionsOf vs) := any_decides vs .permit
  have hd : (ofVisits vs).denied = decide (.deny ∈ decisionsOf vs) := any_decides vs .deny
  have hfin (d : Decision) (h : d ≠ .indeterminate) :
      (ofVisits vs).harvest.finish d ctx = (d, ctx.after { closing d vs with lookups := [] }) :=
    finish_eq_closing hs h ctx
  have hind : (ofVisits vs).faults.indeterminate ctx =
      (.indeterminate, ctx.after { closing .indeterminate vs with lookups := [] }) :=
    indeterminate_eq_closing hs ctx
  have hpermit := hfin .permit (by decide)
  have hdeny := hfin .deny (by decide)
  have hnone := hfin .notApplicable (by decide)
  rw [rankedOutcome_of_decided _ hn]
  cases winner with
  | deny =>
    simp only [conclude, hp, hd, he, hind, hpermit, hdeny, hnone, foremost, rankOrder]
    by_cases h : Decision.deny ∈ decisionsOf vs
    · simp [h]
    · by_cases h' : Decision.indeterminate ∈ decisionsOf vs
      · simp [h, h']
      · by_cases h'' : Decision.permit ∈ decisionsOf vs <;> simp [h, h', h'']
  | permit =>
    simp only [conclude, hp, hd, he, hind, hpermit, hdeny, hnone, foremost, rankOrder]
    by_cases h : Decision.permit ∈ decisionsOf vs
    · simp [h]
    · by_cases h' : Decision.deny ∈ decisionsOf vs
      · simp [h, h']
      · by_cases h'' : Decision.indeterminate ∈ decisionsOf vs <;> simp [h, h', h'']

end ChildTally

/-- Each of these children comes to its visit, and the visits are sound. -/
def Faithful (room : Nat) (child : α → Child) (f : α → Visit) (xs : List α) : Prop :=
  ∀ x ∈ xs, (child x).ComesTo room (f x) ∧ (f x).Sound

namespace PolicyAlgorithm

variable {room : Nat} {child : α → Child} {f : α → Visit}

/-- One step of a fold: the child is run on a context whose status was reset. -/
theorem run_eq {x : α} (hx : (child x).ComesTo room (f x)) {ctx : Context}
    (hr : Scene.room ctx = room) (ho : ctx.obligations = []) :
    (child x).run ctx.resetStatus = (f x).result ctx := by
  rw [Context.resetStatus_eq_after ho, hx.run ctx hr]

/-- An overriding fold that goes on from children already visited. The lookups it makes are those of
the rest. -/
theorem overrides_eq (winner : Effect) (ra : Bool) (seen xs : List α) (ctx : Context)
    (hx : Faithful room child f xs) (hs : ∀ v ∈ seen.map f, v.Sound)
    (hn : (seen.map f).any (·.decision.isNone) = false)
    (hw : ra = false → (seen.map f).any (·.decides winner.decision) = false)
    (hr : Scene.room ctx = room) (ho : ctx.obligations = []) :
    let rest := reached f winner ra ((seen.map f).any (·.decides winner.decision)) xs
    let out := rankedOutcome (foremost (rankOrder winner)) ((seen ++ rest).map f)
    ∃ b, overrides winner ra (xs.map child) (ChildTally.ofVisits (seen.map f)) ctx =
      (out.1, (ctx.setTargetMatched b).after { out.2 with lookups := lookupsOf (rest.map f) }) := by
  induction xs generalizing seen ctx with
  | nil =>
    refine ⟨ctx.targetMatched, ?_⟩
    simp only [List.map_nil, overrides, reached, List.append_nil]
    exact ChildTally.conclude_ofVisits winner hs hn ctx
  | cons x xs ih =>
    have hxs : Faithful room child f xs := fun y hy => hx y (List.mem_cons_of_mem x hy)
    obtain ⟨hc, hsx⟩ := hx x List.mem_cons_self
    have hsn : ∀ v ∈ (seen ++ [x]).map f, v.Sound := by
      intro v hv
      rcases List.mem_append.mp (List.map_append ▸ hv) with h | h
      · exact hs v h
      · simp only [List.map_cons, List.map_nil, List.mem_singleton] at h
        exact h ▸ hsx
    simp only [List.map_cons, overrides, ChildTally.has_ofVisits, reached, hc.carries]
    by_cases hskip : ((seen.map f).any (·.decides winner.decision) && !(f x).carries) = true
    · simp only [hskip, if_true]
      exact ih seen ctx hxs hs hn hw hr ho
    · simp only [hskip, if_false, Bool.false_eq_true, run_eq hc hr ho, Visit.result]
      cases hd : (f x).decision with
      | none =>
        refine ⟨(f x).flag ctx.targetMatched, ?_⟩
        simp [rankedOutcome, illFormedNotes, hd, illFormed_eq, lookupsOf, Notes.following]
      | some d =>
        have hdw : (f x).decides winner.decision = decide (d = winner.decision) := by
          simp [Visit.decides, hd]
        have hnn : ((seen ++ [x]).map f).any (·.decision.isNone) = false := by simp_all
        simp only [hc.declared, Harvest.add_after _ _ hd, reduceCtorEq, false_or]
        by_cases hend : d = winner.decision ∧ ra = false
        · obtain ⟨rfl, rfl⟩ := hend
          have hm : winner.decision ∈ decisionsOf ((seen ++ [x]).map f) := by
            simp [decisionsOf, hd]
          have hh : (ChildTally.ofVisits (seen.map f)).harvest ++ (f x).harvest =
              ((seen ++ [x]).map f).flatMap (·.harvest) := by
            simp [ChildTally.ofVisits]
          refine ⟨(f x).flag ctx.targetMatched, ?_⟩
          simp only [hdw, decide_true, and_self, if_true, hh, finish_winner winner hsn hnn hm]
          simp [Notes.following, lookupsOf]
        · have hwn : ra = false →
              ((seen ++ [x]).map f).any (·.decides winner.decision) = false := by
            intro h
            have hseen := hw h
            simp_all
          have hstep := @ChildTally.note_ofVisits (seen.map f) (f x) d hd
            ((ctx.setTargetMatched ((f x).flag ctx.targetMatched)).after
              { (f x).toNotes with obligations := [] }) rfl rfl
          simp only [hdw, decide_eq_true_eq, hend, if_false, hstep]
          obtain ⟨b, hb⟩ := ih (seen ++ [x])
            ((ctx.setTargetMatched ((f x).flag ctx.targetMatched)).after
              { (f x).toNotes with obligations := [] }) hxs hsn hnn hwn hr rfl
          refine ⟨b, ?_⟩
          simp only [List.map_append, List.map_cons, List.map_nil] at hb
          rw [hb]
          simp [Notes.following, lookupsOf, hdw]

theorem firstApplicableOf_eq (xs : List α) (ctx : Context) (hx : Faithful room child f xs)
    (hr : Scene.room ctx = room) (ho : ctx.obligations = []) :
    let out := rankedOutcome firstApplying ((upTo (fun x => !(f x).decides .notApplicable) xs).map f)
    ∃ b, firstApplicableOf (xs.map child) ctx =
      (out.1, (ctx.setTargetMatched b).after out.2) := by
  induction xs generalizing ctx with
  | nil =>
    have hs : ∀ v ∈ ([] : List Visit), v.Sound := by simp
    exact ⟨ctx.targetMatched,
      finish_eq_closing hs (show Decision.notApplicable ≠ .indeterminate by decide) ctx⟩
  | cons x xs ih =>
    have hxs : Faithful room child f xs := fun y hy => hx y (List.mem_cons_of_mem x hy)
    obtain ⟨hc, hsx⟩ := hx x List.mem_cons_self
    have hna : (f x).decides .notApplicable = decide ((f x).decision = some .notApplicable) := rfl
    simp only [List.map_cons, firstApplicableOf, run_eq hc hr ho, Visit.result]
    by_cases hd : (f x).decision = some .notApplicable
    · obtain ⟨b, hb⟩ := ih ((ctx.setTargetMatched ((f x).flag ctx.targetMatched)).after
        { (f x).toNotes with obligations := [] }) hxs hr rfl
      refine ⟨b, ?_⟩
      rw [upTo_of_neg (by simp [hna, hd])]
      simp only [hd, Context.clearObligations_after, hb, List.map_cons, rankedOutcome_cons hd]
      simp
    · -- The child applies, or was cut short, and the fold goes no further.
      refine ⟨(f x).flag ctx.targetMatched, ?_⟩
      rw [upTo_of_pos (by simp [hna, hd]), List.map_cons, List.map_nil]
      cases he : (f x).decision with
      | none =>
        simp [rankedOutcome, he, illFormedNotes, illFormed_eq, Notes.following, lookupsOf]
      | some d =>
        have hn : d ≠ .notApplicable := by
          rintro rfl
          exact hd he
        rw [rankedOutcome_lone he hn]
        cases d with
        | notApplicable => exact absurd rfl hn
        | indeterminate => exact lone_fault hsx he _
        | permit =>
          simp only [hc.declared]
          exact lone_finish hsx he (by decide) _
        | deny =>
          simp only [hc.declared]
          exact lone_finish hsx he (by decide) _

theorem ambiguous_eq (ctx : Context) :
    ambiguous ctx = (.indeterminate, ctx.after { codes := [.processingError] }) := by
  rw [ambiguous, Context.clearObligations_resetStatus,
    Context.report_after ctx {} (by simp) (by simp)]
  rfl

/-- What the search keeps of the child it has found. -/
def selectionOf (v : Visit) : Selection :=
  let d := v.decision.getD .indeterminate
  ⟨d, v.harvest, if d = .indeterminate then faultsOf [v] else {}⟩

theorem selectionOf_eq {v : Visit} {d : Decision} (hd : v.decision = some d) (ctx : Context) :
    ⟨d, v.harvest, if d = .indeterminate then Faults.record {} (ctx.after v.toNotes) else {}⟩ =
      selectionOf v := by
  by_cases h : d = .indeterminate
  · have hr : Faults.record {} (ctx.after v.toNotes) = faultsOf [v] :=
      faultsOf_record [] (by simp [Visit.decides, hd, h]) rfl rfl
    simp [selectionOf, hd, h, hr]
  · simp [selectionOf, hd, h]

theorem concludeSelection_of_ne {s : Selection} (h : s.decision ≠ .indeterminate) (ctx : Context) :
    concludeSelection (some s) ctx = s.harvest.finish s.decision ctx := by
  obtain ⟨d, hs, fs⟩ := s
  cases d with
  | indeterminate => exact absurd rfl h
  | permit => rfl
  | deny => rfl
  | notApplicable => rfl

theorem concludeSelection_eq {sole : Option Visit} (hs : ∀ v ∈ sole, v.Sound ∧ v.decision ≠ none)
    (ctx : Context) :
    concludeSelection (sole.map selectionOf) ctx =
      ((soleOutcome sole []).1, ctx.after { (soleOutcome sole []).2 with lookups := [] }) := by
  cases sole with
  | none =>
    have hn : ∀ v ∈ ([] : List Visit), v.Sound := by simp
    exact finish_eq_closing hn (show Decision.notApplicable ≠ .indeterminate by decide) ctx
  | some v =>
    obtain ⟨hv, hd⟩ := hs v rfl
    obtain ⟨d, hd⟩ := Option.ne_none_iff_exists'.mp hd
    have hl : ∀ w ∈ [v], w.Sound := by simpa using hv
    have hsel : (selectionOf v).decision = d := by simp [selectionOf, hd]
    have hr : soleOutcome (some v) [] = (d, closing d [v]) := by
      by_cases hn : d = .notApplicable
      · subst hn
        simp [soleOutcome, rankedOutcome, firstApplying, decisionsOf, hd]
      · exact rankedOutcome_lone hd hn
    rw [hr]
    by_cases hi : d = .indeterminate
    · subst hi
      simpa [concludeSelection, selectionOf, hd] using indeterminate_eq_closing hl ctx
    · have hfin := finish_eq_closing hl hi ctx
      have hh : [v].flatMap (·.harvest) = (selectionOf v).harvest := by simp [selectionOf]
      rw [Option.map_some, concludeSelection_of_ne (by rwa [hsel]), hsel, ← hh, hfin]

/-- A search that goes on after it has found `sole`, if anything. -/
theorem onlyOneApplicableOf_eq (sole : Option Visit) (xs : List α) (ctx : Context)
    (hx : Faithful room child f xs) (hs : ∀ v ∈ sole, v.Sound ∧ v.decision ≠ none)
    (hr : Scene.room ctx = room) (ho : ctx.obligations = []) :
    let out := soleOutcome sole (xs.map f)
    ∃ b, onlyOneApplicableOf (xs.map child) (sole.map selectionOf) ctx =
      (out.1, (ctx.setTargetMatched b).after
        { out.2 with lookups := lookupsOf ((searched f sole.isSome xs).map f) }) := by
  induction xs generalizing sole ctx with
  | nil => exact ⟨ctx.targetMatched, concludeSelection_eq hs ctx⟩
  | cons x xs ih =>
    have hxs : Faithful room child f xs := fun y hy => hx y (List.mem_cons_of_mem x hy)
    obtain ⟨hc, hsx⟩ := hx x List.mem_cons_self
    simp only [List.map_cons, onlyOneApplicableOf, run_eq hc hr ho, Visit.result, soleOutcome, searched]
    cases hd : (f x).decision with
    | none =>
      refine ⟨(f x).flag ctx.targetMatched, ?_⟩
      simp [illFormed_eq, illFormedNotes, lookupsOf, Notes.following]
    | some d =>
      have hfl : (f x).flag ctx.targetMatched = (f x).applicable := by simp [Visit.flag, hd]
      have hna : (f x).decides .notApplicable = decide (d = .notApplicable) := by
        simp [Visit.decides, hd]
      simp only [hfl, Context.targetMatched_after, Context.targetMatched_setTargetMatched, hc.declared,
        hna]
      cases ha : (f x).applicable with
      | false =>
        by_cases hn : d = .notApplicable
        · obtain ⟨b, hb⟩ := ih sole ((ctx.setTargetMatched false).after
            { (f x).toNotes with obligations := [] }) hxs hs hr rfl
          refine ⟨b, ?_⟩
          simp only [hn, Context.clearObligations_after, hb]
          simp [Notes.following, lookupsOf]
        · -- The target could not be evaluated: no effect is decided where it did not match.
          have hi : d = .indeterminate := by
            cases d with
            | permit => simpa [ha] using hsx.applicable .permit hd
            | deny => simpa [ha] using hsx.applicable .deny hd
            | notApplicable => exact absurd rfl hn
            | indeterminate => rfl
          subst hi
          refine ⟨false, ?_⟩
          have hl := lone_fault hsx hd (ctx.setTargetMatched false)
          simp [hl, rankedOutcome_lone hd hn, closing]
      | true =>
        cases sole with
        | some w =>
          refine ⟨true, ?_⟩
          simp [ambiguous_eq, lookupsOf, Notes.following]
        | none =>
          obtain ⟨b, hb⟩ := ih (some (f x)) ((ctx.setTargetMatched true).after
            { (f x).toNotes with obligations := [] }) hxs (by simp [hsx, hd]) hr rfl
          refine ⟨b, ?_⟩
          simp only [Option.map_some] at hb
          simp only [Option.map_none, Option.isSome_none, Harvest.add_after _ _ hd, List.nil_append,
            selectionOf_eq hd, Bool.true_eq_false, Bool.false_eq_true, if_false, if_true, hb]
          simp [Notes.following, lookupsOf]

/-- A fold over children comes to the same on every context of that room without obligations. Only the
target flag may tell contexts apart. -/
theorem fold_eq (a : PolicyAlgorithm) (ra : Bool) (xs : List α) (ctx : Context)
    (hx : Faithful room child f xs) (hr : Scene.room ctx = room) (ho : ctx.obligations = []) :
    ∃ b, a.fold ra (xs.map child) ctx =
      ((a.foldOutcome f ra xs).1, (ctx.setTargetMatched b).after (a.foldOutcome f ra xs).2) := by
  have hover (winner : Effect) : ∃ b, overrides winner ra (xs.map child) {} ctx =
      ((rankedOutcome (foremost (rankOrder winner)) ((reached f winner ra false xs).map f)).1,
        (ctx.setTargetMatched b).after
          (rankedOutcome (foremost (rankOrder winner)) ((reached f winner ra false xs).map f)).2) := by
    obtain ⟨b, hb⟩ := overrides_eq winner ra [] xs ctx hx (by simp) rfl (fun _ => rfl) hr ho
    have hi : ChildTally.ofVisits [] = {} := rfl
    exact ⟨b, by simpa [rankedOutcome_lookups, hi] using hb⟩
  cases a with
  | denyOverrides => exact hover .deny
  | orderedDenyOverrides => exact hover .deny
  | permitOverrides => exact hover .permit
  | orderedPermitOverrides => exact hover .permit
  | firstApplicable => exact firstApplicableOf_eq xs ctx hx hr ho
  | onlyOneApplicable => exact onlyOneApplicableOf_eq none xs ctx hx (by simp) hr ho

theorem combine_eq (a : PolicyAlgorithm) (ra : Bool) (slots : Option (List (Option α))) (ctx : Context)
    (hx : ∀ xs, allPresent? slots = some xs → Faithful room child f xs)
    (hr : Scene.room ctx = room) (ho : ctx.obligations = []) :
    ∃ b, a.combine ra (slots.map (·.map (·.map child))) ctx =
      ((a.outcome f ra slots).1, (ctx.setTargetMatched b).after (a.outcome f ra slots).2) := by
  rw [combine, outcome, allPresent?_map]
  cases h : allPresent? slots with
  | none => exact ⟨ctx.targetMatched, illFormed_eq ctx⟩
  | some xs => exact a.fold_eq ra xs ctx (hx xs h) hr ho

end PolicyAlgorithm

end Arbiter
