import Arbiter.Proofs.Ranking
import Arbiter.Proofs.Screening

namespace Arbiter

/-- A way to compare lists part by part. -/
structure Additive (R : List β → List β → Prop) : Prop where
  refl : ∀ xs, R xs xs
  append : ∀ {xs xs' ys ys'}, R xs xs' → R ys ys' → R (xs ++ ys) (xs' ++ ys')

theorem additive_sublist : Additive (@List.Sublist β) := ⟨.refl, .append⟩

theorem additive_perm : Additive (@List.Perm β) := ⟨.refl, .append⟩

theorem additive_eq : Additive (@Eq (List β)) where
  refl _ := rfl
  append h h' := by rw [h, h']

/-- The same status, and obligations that compare. Lookups may differ. -/
structure Notes.Agree (R : List Obligation → List Obligation → Prop) (n n' : Notes) : Prop where
  codes : n.codes = n'.codes
  missing : n.missing = n'.missing
  obligations : R n.obligations n'.obligations

/-- The same decision, on which notes are left that agree. -/
def AgreeTo (R : List Obligation → List Obligation → Prop) (o o' : Decision × Notes) : Prop :=
  o.1 = o'.1 ∧ o.2.Agree R o'.2

/-- The same but for the obligations. A parent does not tell apart whether a child declares them or its
evaluation left them, so they compare as the child brings them. -/
structure Visit.Agree (R : List Obligation → List Obligation → Prop) (v v' : Visit) : Prop where
  codes : v.codes = v'.codes
  missing : v.missing = v'.missing
  decision : v.decision = v'.decision
  applicable : v.applicable = v'.applicable
  brings : ∀ e : Effect, v.decision = some e.decision → R (v.brings e) (v'.brings e)

variable {R : List Obligation → List Obligation → Prop}

theorem AgreeTo.refl (hR : Additive R) (o : Decision × Notes) : AgreeTo R o o :=
  ⟨rfl, rfl, rfl, hR.refl _⟩

/-- The same to whoever does not look at lookups or at the target flag. -/
structure SameAnswer (out out' : Decision × Context) : Prop where
  decision : out.1 = out'.1
  statusCode : out.2.statusCode = out'.2.statusCode
  statusCodes : out.2.statusCodes = out'.2.statusCodes
  missing : out.2.missing = out'.2.missing
  obligations : out.2.obligations = out'.2.obligations

theorem AgreeTo.sameAnswer {o o' : Decision × Notes} (h : AgreeTo Eq o o') {ctx ctx' : Context}
    {out out' : Decision × Context} (hout : out = (o.1, ctx.after o.2))
    (hout' : out' = (o'.1, ctx'.after o'.2)) : SameAnswer out out' := by
  obtain ⟨hd, hn⟩ := h
  rw [hout, hout']
  exact ⟨hd, congrArg (·.headD .ok) hn.codes, hn.codes, hn.missing, hn.obligations⟩

namespace Visit.Agree

variable {v v' : Visit}

theorem refl (hR : Additive R) (v : Visit) : v.Agree R v :=
  ⟨rfl, rfl, rfl, rfl, fun _ _ => hR.refl _⟩

theorem decides (h : v.Agree R v') (d : Decision) : v.decides d = v'.decides d := by
  simp [Visit.decides, h.decision]

theorem faultCodes (h : v.Agree R v') : v.faultCodes = v'.faultCodes := by
  simp [Visit.faultCodes, h.codes]

theorem screen (h : v.Agree R v') : v.screen = v'.screen := by
  simp [Visit.screen, h.decision, h.applicable, h.decides]

theorem broughtBy (hR : Additive R) (h : v.Agree R v') (e : Effect) :
    R (broughtBy e [v]) (broughtBy e [v']) := by
  cases hd : v.decides e.decision with
  | false =>
    have hd' : v'.decides e.decision = false := (h.decides _).symm.trans hd
    simpa [Arbiter.broughtBy, hd, hd'] using hR.refl []
  | true =>
    have hd' : v'.decides e.decision := (h.decides _).symm.trans hd
    have hb := h.brings e (by simpa [Visit.decides] using hd)
    simpa [Arbiter.broughtBy, hd, hd'] using hb

end Visit.Agree

section

variable {f g : α → Visit} {xs ys : List α}

theorem broughtBy_agree (hR : Additive R) (e : Effect) (h : ∀ x ∈ xs, (f x).Agree R (g x)) :
    R (broughtBy e (xs.map f)) (broughtBy e (xs.map g)) := by
  induction xs with
  | nil => exact hR.refl []
  | cons x xs ih =>
    rw [List.map_cons, List.map_cons, broughtBy_cons, broughtBy_cons e (g x)]
    have hrest := ih fun y hy => h y (List.mem_cons_of_mem x hy)
    exact hR.append ((h x List.mem_cons_self).broughtBy hR e) hrest

theorem faultsOf_agree (h : ∀ x ∈ xs, (f x).Agree R (g x)) :
    faultsOf (xs.map f) = faultsOf (xs.map g) := by
  have hfaulty : (xs.filter fun x => (f x).decides .indeterminate) =
      xs.filter fun x => (g x).decides .indeterminate :=
    List.filter_congr fun x hx => (h x hx).decides _
  have hall {β : Type} (k : Visit → List β) (hk : ∀ x ∈ xs, k (f x) = k (g x)) :
      ((xs.map f).filter (·.decides .indeterminate)).flatMap k =
        ((xs.map g).filter (·.decides .indeterminate)).flatMap k := by
    simp only [List.filter_map, Function.comp_def, hfaulty, List.flatMap, List.map_map]
    rw [List.map_congr_left fun x hx => hk x (List.mem_filter.mp hx).1]
  have hcodes : (faultsOf (xs.map f)).codes = (faultsOf (xs.map g)).codes :=
    hall (·.faultCodes) fun x hx => (h x hx).faultCodes
  have hmissing : (faultsOf (xs.map f)).missing = (faultsOf (xs.map g)).missing := by
    rw [faultsOf_missing, faultsOf_missing, hall (·.missing) fun x hx => (h x hx).missing]
  show Faults.mk (faultsOf (xs.map f)).codes (faultsOf (xs.map f)).missing = faultsOf (xs.map g)
  rw [hcodes, hmissing]

theorem decisionsOf_agree (h : ∀ x ∈ xs, (f x).Agree R (g x)) :
    decisionsOf (xs.map f) = decisionsOf (xs.map g) := by
  rw [decisionsOf_map, decisionsOf_map, List.map_congr_left fun x hx => (h x hx).decision]

/-- A fold ends alike after different visits, if they are the same children where it tells of faults and
what they brought compares. -/
theorem rankedOutcome_agree (hR : Additive R) (rank : List Decision → Decision)
    (hd : ∀ x ∈ xs, (f x).decision ≠ none) (hd' : ∀ y ∈ ys, (g y).decision ≠ none)
    (hr : rank (decisionsOf (xs.map f)) = rank (decisionsOf (ys.map g)))
    (hi : rank (decisionsOf (xs.map f)) = .indeterminate →
      faultsOf (xs.map f) = faultsOf (ys.map g))
    (hb : ∀ e : Effect, rank (decisionsOf (xs.map f)) = e.decision →
      R (broughtBy e (xs.map f)) (broughtBy e (ys.map g))) :
    AgreeTo R (rankedOutcome rank (xs.map f)) (rankedOutcome rank (ys.map g)) := by
  have hf : (xs.map f).any (·.decision.isNone) = false := by simpa using hd
  have hg : (ys.map g).any (·.decision.isNone) = false := by simpa using hd'
  rw [rankedOutcome_of_decided rank hf, rankedOutcome_of_decided rank hg, ← hr]
  generalize rank (decisionsOf (xs.map f)) = d at hi hb
  refine ⟨rfl, ?_, ?_, ?_⟩
  · by_cases h : d = .indeterminate <;> simp [closing, h, hi]
  · by_cases h : d = .indeterminate <;> simp [closing, h, hi]
  · cases he : d.effect? with
    | none => simpa [closing, he] using hR.refl []
    | some e => simpa [closing, he] using hb e (Decision.decision_of_effect? he).symm

/-- The same children ranked twice. -/
theorem rankedOutcome_congr (hR : Additive R) (rank : List Decision → Decision)
    (h : ∀ x ∈ xs, (f x).Agree R (g x)) (hd : ∀ x ∈ xs, (f x).decision ≠ none) :
    AgreeTo R (rankedOutcome rank (xs.map f)) (rankedOutcome rank (xs.map g)) := by
  refine rankedOutcome_agree hR rank hd (fun x hx => (h x hx).decision ▸ hd x hx) ?_ ?_ ?_
  · rw [decisionsOf_agree h]
  · exact fun _ => faultsOf_agree h
  · exact fun e _ => broughtBy_agree hR e h

end

namespace PolicyAlgorithm

variable {f g : α → Visit} {xs : List α}

/-- The search for the one applicable child goes the same way. -/
theorem soleOutcome_agree (hR : Additive R) (sole : Option α)
    (h : ∀ x ∈ sole.toList ++ searched f sole.isSome xs, (f x).Agree R (g x))
    (hd : ∀ x ∈ sole.toList ++ searched f sole.isSome xs, (f x).decision ≠ none) :
    AgreeTo R (soleOutcome (sole.map f) (xs.map f)) (soleOutcome (sole.map g) (xs.map g)) := by
  have lone (x : α) (hx : (f x).Agree R (g x)) (hdx : (f x).decision ≠ none) :
      AgreeTo R (rankedOutcome firstApplying [f x]) (rankedOutcome firstApplying [g x]) :=
    @rankedOutcome_congr _ _ f g [x] hR firstApplying (by simpa using hx) (by simpa using hdx)
  induction xs generalizing sole with
  | nil =>
    cases sole with
    | none => exact .refl hR _
    | some x => exact lone x (h x (by simp)) (hd x (by simp))
  | cons x xs ih =>
    have hmem : x ∈ sole.toList ++ searched f sole.isSome (x :: xs) :=
      List.mem_append_right _ (head_mem_searched _ x xs)
    have hx := h x hmem
    have hdx := hd x hmem
    rw [List.map_cons, List.map_cons, soleOutcome_cons _ hdx, soleOutcome_cons _ (hx.decision ▸ hdx),
      ← hx.screen]
    rw [searched_cons _ hdx] at h hd
    cases hs : (f x).screen with
    | matched =>
      cases sole with
      | some y => exact .refl hR _
      | none => exact ih (some x) (by simpa [hs] using h) (by simpa [hs] using hd)
    | unmatched =>
      simp only [hs] at h hd
      have hsub : ∀ y ∈ sole.toList ++ searched f sole.isSome xs,
          y ∈ sole.toList ++ x :: searched f sole.isSome xs :=
        (List.sublist_cons_self x _).append_left sole.toList |>.subset
      exact ih sole (fun y hy => h y (hsub y hy)) fun y hy => hd y (hsub y hy)
    | indeterminate => exact lone x hx hdx

/-- What an overriding fold has visited settles it alike, whichever visits it sees and whether it
respects abandoned children or not, if what was brought for the overriding effect compares. -/
theorem overriding_agree (hR : Additive R) (winner : Effect) {ra ra' : Bool}
    (h : ∀ x ∈ reached f winner ra false xs, (f x).Agree R (g x))
    (hd : ∀ x ∈ reached f winner ra false xs, (f x).decision ≠ none)
    (hd' : ∀ x ∈ reached g winner ra' false xs, (g x).decision ≠ none)
    (hb : R (broughtBy winner ((reached f winner ra false xs).map f))
      (broughtBy winner ((reached g winner ra' false xs).map g))) :
    AgreeTo R (rankedOutcome (foremost (rankOrder winner)) ((reached f winner ra false xs).map f))
      (rankedOutcome (foremost (rankOrder winner)) ((reached g winner ra' false xs).map g)) := by
  by_cases hw : ∃ x ∈ reached f winner ra false xs, (f x).decision = some winner.decision
  · obtain ⟨x, hx, hxw⟩ := hw
    have hxs : x ∈ xs := (reached_sublist winner ra false xs).subset hx
    have hgw : (g x).decision = some winner.decision := (h x hx).decision ▸ hxw
    obtain ⟨y, hy, hyd⟩ := exists_reached g winner ra' hxs (.inr hgw)
    have hf := foremost_winner ((mem_decisionsOf f).mpr ⟨x, hx, hxw⟩)
    have hg := foremost_winner ((mem_decisionsOf g).mpr ⟨y, hy, hyd.resolve_left (hd' y hy)⟩)
    refine rankedOutcome_agree hR _ hd hd' (hf.trans hg.symm) ?_ ?_
    · intro hi
      rw [hf] at hi
      cases winner <;> simp [Effect.decision] at hi
    · intro e he
      obtain rfl := Effect.decision_injective (hf.symm.trans he)
      exact hb
  · -- No child settles the fold alone, so that both have visited all of them.
    have hopen : ∀ x ∈ reached f winner ra false xs, (f x).decision ≠ some winner.decision :=
      fun x hx hxw => hw ⟨x, hx, hxw⟩
    have hall := reached_of_open f winner ra hd hopen
    rw [hall] at h hd hopen ⊢
    have hsub := reached_sublist (f := g) winner ra' false xs
    rw [reached_of_open g winner ra' hd' fun x hx =>
      (h x (hsub.subset hx)).decision ▸ hopen x (hsub.subset hx)]
    exact rankedOutcome_congr hR _ h hd

/-- Only of an overriding fold more has to be known: every other one visits the same children. -/
theorem foldOutcome_agree (hR : Additive R) (a : PolicyAlgorithm) {ra ra' : Bool}
    (h : ∀ x ∈ a.visited f ra xs, (f x).Agree R (g x))
    (hd : ∀ x ∈ a.visited f ra xs, (f x).decision ≠ none)
    (hw : ∀ winner, a.strategy = .overriding winner →
      (∀ x ∈ reached g winner ra' false xs, (g x).decision ≠ none) ∧
        R (broughtBy winner ((reached f winner ra false xs).map f))
          (broughtBy winner ((reached g winner ra' false xs).map g))) :
    AgreeTo R (a.foldOutcome f ra xs) (a.foldOutcome g ra' xs) := by
  unfold visited at h hd
  unfold foldOutcome visited rank?
  cases hs : a.strategy with
  | overriding winner =>
    simp only [hs] at h hd
    obtain ⟨hd', hb⟩ := hw winner hs
    exact overriding_agree hR winner h hd hd' hb
  | firstApplicable =>
    simp only [hs] at h hd
    have hvis : upTo (fun x => !(f x).decides .notApplicable) xs =
        upTo (fun x => !(g x).decides .notApplicable) xs :=
      upTo_congr fun x hx => by rw [(h x hx).decides]
    simp only [← hvis]
    exact rankedOutcome_congr hR firstApplying h hd
  | onlyOneApplicable =>
    simp only [hs] at h hd
    obtain ⟨hfst, hsnd⟩ := soleOutcome_agree hR none (by simpa using h) (by simpa using hd)
    exact ⟨hfst, hsnd.codes, hsnd.missing, hsnd.obligations⟩

end PolicyAlgorithm

end Arbiter
