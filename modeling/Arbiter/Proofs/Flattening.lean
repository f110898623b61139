import Arbiter.Proofs.Skipping

/-! A policy set that adds nothing of its own may be replaced by its children.

The nested fold stops, skips and filters before the outer fold does so again. What an outer fold tells of
its visits hangs on its decision, and on that the nested fold has told the same already. -/

namespace Arbiter

theorem Notes.Agree.symm {n n' : Notes} (h : n.Agree Eq n') : n'.Agree Eq n :=
  ⟨h.codes.symm, h.missing.symm, h.obligations.symm⟩

theorem Notes.Agree.trans {n n' n'' : Notes} (h : n.Agree Eq n') (h' : n'.Agree Eq n'') :
    n.Agree Eq n'' :=
  ⟨h.codes.trans h'.codes, h.missing.trans h'.missing, h.obligations.trans h'.obligations⟩

/-- A fold that decides `d` leaves the same after both, lookups aside. -/
def TellAlike (d : Decision) (vs ws : List Visit) : Prop := (closing d vs).Agree Eq (closing d ws)

theorem closing_append_codes (d : Decision) (vs ws : List Visit) :
    (closing d (vs ++ ws)).codes = (closing d vs).codes ++ (closing d ws).codes := by
  by_cases hd : d = .indeterminate <;> simp [closing, hd, faultsOf]

theorem closing_append_missing (d : Decision) (vs ws : List Visit) :
    (closing d (vs ++ ws)).missing = ((closing d vs).missing ++ (closing d ws).missing).eraseDups := by
  by_cases hd : d = .indeterminate
  · have htwice (xs ys : List MissingAttribute) :
        (xs ++ ys).eraseDups = (xs.eraseDups ++ ys.eraseDups).eraseDups := by
      simpa using (eraseDups_flatMap_eraseDups [xs, ys] fun x => x).symm
    simp only [closing, hd, if_true, faultsOf_missing, List.filter_append, List.flatMap_append]
    exact htwice _ _
  · simp [closing, hd]

theorem closing_append_obligations (d : Decision) (vs ws : List Visit) :
    (closing d (vs ++ ws)).obligations = (closing d vs).obligations ++ (closing d ws).obligations := by
  cases he : d.effect? <;> simp [closing, he]

namespace TellAlike

variable {d : Decision} {vs vs' ws ws' : List Visit}

theorem refl (d : Decision) (vs : List Visit) : TellAlike d vs vs := ⟨rfl, rfl, rfl⟩

theorem symm (h : TellAlike d vs ws) : TellAlike d ws vs := Notes.Agree.symm h

theorem trans (h : TellAlike d vs ws) (h' : TellAlike d ws ws') : TellAlike d vs ws' :=
  Notes.Agree.trans h h'

theorem append (h : TellAlike d vs vs') (h' : TellAlike d ws ws') :
    TellAlike d (vs ++ ws) (vs' ++ ws') where
  codes := by rw [closing_append_codes, closing_append_codes, h.codes, h'.codes]
  missing := by rw [closing_append_missing, closing_append_missing, h.missing, h'.missing]
  obligations := by
    rw [closing_append_obligations, closing_append_obligations, h.obligations, h'.obligations]

/-- Only visits of the decision that it comes to itself count for a fold. -/
theorem of_filter (h : vs.filter (·.decides d) = ws.filter (·.decides d)) : TellAlike d vs ws := by
  refine ⟨?_, ?_, ?_⟩
  · by_cases hd : d = .indeterminate
    · subst hd
      simp [closing, faultsOf, h]
    · simp [closing, hd]
  · by_cases hd : d = .indeterminate
    · subst hd
      simp [closing, faultsOf, h]
    · simp [closing, hd]
  · cases he : d.effect? with
    | none => simp [closing, he]
    | some e =>
      obtain rfl := Decision.decision_of_effect? he
      simp [closing, he, broughtBy, h]

theorem filter (d : Decision) (vs : List Visit) : TellAlike d (vs.filter (·.decides d)) vs :=
  of_filter (by simp)

theorem of_brought {e : Effect} (h : broughtBy e vs = broughtBy e ws) : TellAlike e.decision vs ws := by
  cases e <;> exact ⟨rfl, rfl, h⟩

theorem notApplicable (vs ws : List Visit) : TellAlike .notApplicable vs ws := ⟨rfl, rfl, rfl⟩

/-- A nested fold has told already what the outer one is to tell. -/
theorem lone {v : Visit} (hd : v.decision = some d) (hv : v.declared = [])
    (hn : v.toNotes.Agree Eq (closing d vs)) (hi : d = .indeterminate → vs.any (·.decides d)) :
    TellAlike d [v] vs := by
  refine ⟨?_, ?_, ?_⟩
  · by_cases h : d = .indeterminate
    · subst h
      have hany : (faultsOf vs).codes ≠ [] := by
        have hempty := faultsOf_isEmpty vs
        simpa [hi rfl, Faults.isEmpty] using hempty
      have hcodes : v.codes = (faultsOf vs).codes := hn.codes
      have hown : (faultsOf [v]).codes = v.faultCodes := by simp [faultsOf, Visit.decides, hd]
      simp [closing, hown, Visit.faultCodes, hcodes, hany]
    · simp [closing, h]
  · by_cases h : d = .indeterminate
    · subst h
      have hmissing : v.missing = (faultsOf vs).missing := hn.missing
      have htwice (xs : List MissingAttribute) : xs.eraseDups.eraseDups = xs.eraseDups := by
        simpa using eraseDups_flatMap_eraseDups [xs] fun x => x
      have hown : (faultsOf [v]).missing = v.missing.eraseDups := by
        simp [faultsOf_missing, Visit.decides, hd]
      simp [closing, hown, hmissing, faultsOf_missing, htwice]
    · simp [closing, h]
  · have ho := hn.obligations
    cases he : d.effect? with
    | none => simp [closing, he]
    | some e =>
      obtain rfl := Decision.decision_of_effect? he
      simp only [closing, he] at ho ⊢
      simp [broughtBy, Visit.decides, hd, Visit.brings, hv, ho]

end TellAlike

open PolicyAlgorithm (mem_of_foremost)

/-- What ranks as a list does may stand for the list. -/
theorem foremost_flatten {order : List Decision} (ho : .notApplicable ∉ order) (ds es fs : List Decision) :
    foremost order (ds ++ foremost order es :: fs) = foremost order (ds ++ es ++ fs) := by
  induction order with
  | nil => rfl
  | cons o os ih =>
    obtain ⟨hne, hos⟩ : Decision.notApplicable ≠ o ∧ .notApplicable ∉ os := by simpa using ho
    have hskip {xs : List Decision} (hx : o ∉ xs) : foremost (o :: os) xs = foremost os xs := by
      simp [foremost, hx]
    have hhead {xs : List Decision} (hx : o ∈ xs) : foremost (o :: os) xs = o := by
      simp [foremost, hx]
    by_cases he : o ∈ es
    · rw [hhead he, hhead (by simp), hhead (by simp [he])]
    · have hmem : o ≠ foremost os es := by
        intro h
        exact he (h ▸ mem_of_foremost rfl (h ▸ hne.symm))
      rw [hskip he]
      by_cases hdf : o ∈ ds ∨ o ∈ fs
      · rw [hhead (by simpa [hmem] using hdf), hhead (by simp; tauto)]
      · rw [hskip (by simpa [hmem] using hdf), hskip (by simp; tauto), ih hos]

/-- Of a list that holds what is foremost of a longer one, the same is foremost. -/
theorem foremost_eq_iff {order ds es : List Decision} {d : Decision} (h : foremost order ds = d)
    (hd : d ≠ .notApplicable) (hs : ∀ e ∈ es, e ∈ ds) : foremost order es = d ↔ d ∈ es := by
  constructor
  · exact fun he => mem_of_foremost he hd
  · intro he
    induction order with
    | nil => exact absurd h hd.symm
    | cons o os ih =>
      by_cases hoe : o ∈ es
      · have hods := hs o hoe
        simpa [foremost, hoe, hods] using h
      · by_cases hods : o ∈ ds
        · obtain rfl : o = d := by simpa [foremost, hods] using h
          exact absurd he hoe
        · have hrest := ih (by simpa [foremost, hods] using h)
          simpa [foremost, hoe] using hrest

theorem firstApplying_flatten (ds es fs : List Decision) :
    firstApplying (ds ++ firstApplying es :: fs) = firstApplying (ds ++ es ++ fs) := by
  simp only [firstApplying, List.find?_append, List.find?_cons]
  cases hds : ds.find? (· ≠ .notApplicable) with
  | some d => simp
  | none =>
    cases hes : es.find? (· ≠ .notApplicable) with
    | none => simp
    | some e => simp [by simpa using List.find?_some hes]

theorem firstApplying_eq_iff {ds es fs : List Decision} {d : Decision}
    (h : firstApplying (ds ++ es ++ fs) = d) (hd : d ≠ .notApplicable) (hds : d ∉ ds) :
    firstApplying es = d ↔ d ∈ es := by
  simp only [firstApplying, List.find?_append] at h ⊢
  cases hfirst : ds.find? (· ≠ .notApplicable) with
  | some e =>
    rw [hfirst] at h
    obtain rfl : e = d := by simpa using h
    exact absurd (List.mem_of_find?_eq_some hfirst) hds
  | none =>
    cases hnext : es.find? (· ≠ .notApplicable) with
    | some e =>
      rw [hfirst, hnext] at h
      obtain rfl : e = d := by simpa using h
      simpa using List.mem_of_find?_eq_some hnext
    | none =>
      have hall : ∀ e ∈ es, e = .notApplicable := by simpa using hnext
      have hnot : d ∉ es := fun hm => hd (hall d hm)
      simp [hnot, hd.symm]

namespace PolicyAlgorithm

/-- Whether the first child that decides `d` ends a fold that comes to `d` itself. -/
def stopsAt (a : PolicyAlgorithm) (ra : Bool) (d : Decision) : Bool :=
  match a.strategy with
  | .overriding winner => d = winner.decision && !ra
  | .firstApplicable | .onlyOneApplicable => true

/-- The visits that count for a fold that comes to `d`. -/
def counted (a : PolicyAlgorithm) (ra : Bool) (d : Decision) (vs : List Visit) : List Visit :=
  if a.stopsAt ra d then (vs.find? (·.decides d)).toList else vs.filter (·.decides d)

theorem counted_append (a : PolicyAlgorithm) (ra : Bool) (d : Decision) (vs ws : List Visit) :
    a.counted ra d (vs ++ ws) =
      if a.stopsAt ra d ∧ a.counted ra d vs ≠ [] then a.counted ra d vs
      else a.counted ra d vs ++ a.counted ra d ws := by
  unfold counted
  cases a.stopsAt ra d with
  | false => simp
  | true => cases hv : vs.find? (·.decides d) <;> simp [hv]

theorem counted_eq_nil_iff {a : PolicyAlgorithm} {ra : Bool} {d : Decision} {vs : List Visit} :
    a.counted ra d vs = [] ↔ d ∉ decisionsOf vs := by
  have hmem : d ∉ decisionsOf vs ↔ ∀ v ∈ vs, ¬ v.decides d := by simp [decisionsOf, Visit.decides]
  rw [hmem]
  unfold counted
  cases a.stopsAt ra d <;> simp

theorem decides_of_mem_counted {a : PolicyAlgorithm} {ra : Bool} {d : Decision} {vs : List Visit}
    {v : Visit} (h : v ∈ a.counted ra d vs) : v.decides d := by
  unfold counted at h
  split at h
  · have hfound := Option.mem_toList.mp h
    simpa using List.find?_some hfound
  · exact (List.mem_filter.mp h).2

/-- What counts of the middle of a list may be exchanged, and where the fold has stopped before there
counts nothing of it. -/
theorem counted_flatten {a : PolicyAlgorithm} {ra : Bool} {d : Decision} {vs ws ws' us : List Visit}
    (h : (a.stopsAt ra d → d ∉ decisionsOf vs) →
      (a.counted ra d ws = [] ↔ a.counted ra d ws' = []) ∧
        TellAlike d (a.counted ra d ws) (a.counted ra d ws')) :
    TellAlike d (a.counted ra d (vs ++ (ws ++ us))) (a.counted ra d (vs ++ (ws' ++ us))) := by
  rw [counted_append, counted_append a ra d vs, counted_append, counted_append a ra d ws']
  cases hstop : a.stopsAt ra d with
  | false =>
    obtain ⟨-, htell⟩ := h (by simp [hstop])
    simpa using (TellAlike.refl d _).append (htell.append (TellAlike.refl d _))
  | true =>
    by_cases hvs : a.counted ra d vs = []
    · obtain ⟨hnil, htell⟩ := h fun _ => counted_eq_nil_iff.mp hvs
      by_cases hws : a.counted ra d ws = []
      · simpa [hvs, hws, hnil.mp hws] using TellAlike.refl d _
      · simpa [hvs, hws, mt hnil.mpr hws] using htell
    · simpa [hvs] using TellAlike.refl d _

variable {f : α → Visit}

theorem filter_reached (winner : Effect) {xs : List α} (hd : ∀ x ∈ xs, (f x).decision ≠ none) :
    ((reached f winner false false xs).map f).filter (·.decides winner.decision) =
      ((xs.map f).find? (·.decides winner.decision)).toList := by
  induction xs with
  | nil => rfl
  | cons x xs ih =>
    have hx := hd x List.mem_cons_self
    have hrest := ih fun y hy => hd y (List.mem_cons_of_mem x hy)
    cases hw : (f x).decides winner.decision with
    | true =>
      rw [reached_last rfl ⟨hw, rfl⟩]
      simp [hw]
    | false =>
      rw [reached_further rfl hx (by simp [hw]), hw, Bool.false_or]
      simpa [hw] using hrest

theorem filter_upTo {d : Decision} (hna : d ≠ .notApplicable) {xs : List α}
    (hd : ∀ x ∈ xs, (f x).decision ≠ none) (h : firstApplying (decisionsOf (xs.map f)) = d) :
    ((upTo (fun x => !(f x).decides .notApplicable) xs).map f).filter (·.decides d) =
      ((xs.map f).find? (·.decides d)).toList := by
  induction xs with
  | nil => rfl
  | cons x xs ih =>
    obtain ⟨e, he⟩ := Option.ne_none_iff_exists'.mp (hd x List.mem_cons_self)
    have hds : decisionsOf ((x :: xs).map f) = e :: decisionsOf (xs.map f) := by
      simp [decisionsOf, he]
    rw [hds, firstApplying] at h
    by_cases hea : e = .notApplicable
    · subst hea
      have hrest := ih (fun y hy => hd y (List.mem_cons_of_mem x hy)) (by simpa [firstApplying] using h)
      have hx : (f x).decides d = false := by simpa [Visit.decides, he] using hna.symm
      rw [upTo_of_neg (by simp [Visit.decides, he])]
      simpa [hx] using hrest
    · obtain rfl : e = d := by simpa [hea] using h
      rw [upTo_of_pos (by simpa [Visit.decides, he] using hea)]
      simp [Visit.decides, he]

/-- Children that a fold skips once the overriding effect is decided have nothing to bring. -/
theorem broughtBy_reached (winner : Effect) {xs : List α} (hd : ∀ x ∈ xs, (f x).decision ≠ none)
    (hb : ∀ x ∈ xs, (f x).carries = false → broughtBy winner [f x] = []) :
    broughtBy winner ((reached f winner true false xs).map f) = broughtBy winner (xs.map f) := by
  have hcarries : ∀ x ∈ xs, (f x).unskipped.carries := fun _ _ => rfl
  have hall : reached (fun x => (f x).unskipped) winner true false xs = xs :=
    reached_of_carries winner false hcarries hd
  have hlighter : broughtBy winner
        ((reached (fun x => (f x).unskipped) winner true false xs).map fun x => (f x).unskipped) =
      broughtBy winner ((reached f winner true false xs).map f) :=
    (reached_lighter additive_eq winner (by simp) (fun x _ => (f x).unskipped_agree)
      (fun x hx => hd x (hall ▸ hx)) (fun _ _ _ => rfl) hb).2
  rw [hall] at hlighter
  exact hlighter.symm.trans (broughtBy_agree additive_eq winner fun x _ => (f x).unskipped_agree)

/-- What a fold tells of its visits is what it would tell of the children that count. -/
theorem visited_tellAlike (a : PolicyAlgorithm) {rank : List Decision → Decision}
    (ha : a.rank? = some rank) (ra : Bool) {xs : List α} (hd : ∀ x ∈ xs, (f x).decision ≠ none)
    (hb : ∀ x ∈ xs, (f x).carries = false → ∀ e, broughtBy e [f x] = []) :
    TellAlike (rank (decisionsOf (xs.map f))) ((a.visited f ra xs).map f)
      (a.counted ra (rank (decisionsOf (xs.map f))) (xs.map f)) := by
  have hfound (d : Decision) : ((xs.map f).find? (·.decides d)).toList.filter (·.decides d) =
      ((xs.map f).find? (·.decides d)).toList := by
    cases h : (xs.map f).find? (·.decides d) with
    | none => rfl
    | some v => simpa using List.find?_some h
  unfold rank? at ha
  unfold visited counted stopsAt
  cases hs : a.strategy with
  | overriding winner =>
    rw [hs] at ha
    obtain rfl : foremost (rankOrder winner) = rank := Option.some.inj ha
    by_cases hw : foremost (rankOrder winner) (decisionsOf (xs.map f)) = winner.decision
    · rw [hw]
      cases ra with
      | false =>
        apply TellAlike.of_filter
        simp only [Bool.not_false, Bool.and_true, decide_true, if_true]
        rw [filter_reached winner hd, hfound]
      | true =>
        simp only [Bool.not_true, Bool.and_false, Bool.false_eq_true, if_false]
        have hsame := broughtBy_reached winner hd fun x hx hc => hb x hx hc winner
        exact (TellAlike.of_brought hsame).trans (TellAlike.filter _ _).symm
    · have hopen : ∀ x ∈ xs, (f x).decision ≠ some winner.decision := fun x hx hxw =>
        hw (foremost_winner ((mem_decisionsOf f).mpr ⟨x, hx, hxw⟩))
      have hsub := reached_sublist (f := f) winner ra false xs
      have hall : reached f winner ra false xs = xs :=
        reached_of_open f winner ra (fun x hx => hd x (hsub.subset hx)) fun x hx => hopen x (hsub.subset hx)
      simp only [hall, hw, decide_false, Bool.false_and, Bool.false_eq_true, if_false]
      exact (TellAlike.filter _ _).symm
  | firstApplicable =>
    rw [hs] at ha
    obtain rfl : firstApplying = rank := Option.some.inj ha
    by_cases hna : firstApplying (decisionsOf (xs.map f)) = .notApplicable
    · rw [hna]
      exact .notApplicable _ _
    · apply TellAlike.of_filter
      simp only [if_true]
      rw [filter_upTo hna hd rfl, hfound]
  | onlyOneApplicable => simp [hs] at ha

/-- What a ranking fold comes to, from its children alone. -/
theorem foldOutcome_counted (a : PolicyAlgorithm) {rank : List Decision → Decision}
    (ha : a.rank? = some rank) (ra : Bool) {xs : List α} (hd : ∀ x ∈ xs, (f x).decision ≠ none)
    (hb : ∀ x ∈ xs, (f x).carries = false → ∀ e, broughtBy e [f x] = []) :
    let d := rank (decisionsOf (xs.map f))
    AgreeTo Eq (a.foldOutcome f ra xs) (d, closing d (a.counted ra d (xs.map f))) := by
  have htells := a.visited_tellAlike ha ra hd hb
  have hvis : ((a.visited f ra xs).map f).any (·.decision.isNone) = false := by
    simpa using fun x hx => hd x ((a.visited_sublist ra xs).subset hx)
  simp only [foldOutcome, ha]
  rw [rankedOutcome_of_decided rank hvis, rank_visited f a ha ra hd]
  exact ⟨rfl, htells⟩

theorem rank_flatten {a : PolicyAlgorithm} {rank : List Decision → Decision} (ha : a.rank? = some rank)
    (ds es fs : List Decision) : rank (ds ++ rank es :: fs) = rank (ds ++ es ++ fs) := by
  unfold rank? at ha
  cases hs : a.strategy with
  | overriding winner =>
    rw [hs] at ha
    obtain rfl : foremost (rankOrder winner) = rank := Option.some.inj ha
    exact foremost_flatten (by cases winner <;> decide) ds es fs
  | firstApplicable =>
    rw [hs] at ha
    obtain rfl : firstApplying = rank := Option.some.inj ha
    exact firstApplying_flatten ds es fs
  | onlyOneApplicable => simp [hs] at ha

/-- A nested fold comes to the decision of the outer one just if one of its children does, unless the
outer one has stopped before. -/
theorem rank_eq_iff {a : PolicyAlgorithm} {rank : List Decision → Decision} (ha : a.rank? = some rank)
    (ra : Bool) {ds es fs : List Decision} {d : Decision} (h : rank (ds ++ es ++ fs) = d)
    (hd : d ≠ .notApplicable) (hopen : a.stopsAt ra d → d ∉ ds) : rank es = d ↔ d ∈ es := by
  unfold rank? at ha
  unfold stopsAt at hopen
  cases hs : a.strategy with
  | overriding winner =>
    rw [hs] at ha
    obtain rfl : foremost (rankOrder winner) = rank := Option.some.inj ha
    exact foremost_eq_iff h hd fun e he => by simp [he]
  | firstApplicable =>
    simp only [hs] at ha hopen
    obtain rfl : firstApplying = rank := Option.some.inj ha
    exact firstApplying_eq_iff h hd (hopen trivial)
  | onlyOneApplicable => simp [hs] at ha

theorem decisionsOf_append (vs ws : List Visit) :
    decisionsOf (vs ++ ws) = decisionsOf vs ++ decisionsOf ws :=
  List.filterMap_append

theorem foldOutcome_congr {a b : PolicyAlgorithm} (h : a.strategy = b.strategy) (ra : Bool) (xs : List α) :
    a.foldOutcome f ra xs = b.foldOutcome f ra xs := by
  simp only [foldOutcome, visited, rank?, h]

/-- What counts of a nested fold is what counts of its children, provided it comes to the decision of the
outer one just if one of them does. -/
theorem counted_nested {a : PolicyAlgorithm} {ra : Bool} {v : Visit} {ws : List Visit} {d e : Decision}
    (he : v.decision = some e) (hv : v.declared = [])
    (hn : v.toNotes.Agree Eq (closing e (a.counted ra e ws))) (h : e = d ↔ d ∈ decisionsOf ws) :
    (a.counted ra d [v] = [] ↔ a.counted ra d ws = []) ∧
      TellAlike d (a.counted ra d [v]) (a.counted ra d ws) := by
  by_cases hed : e = d
  · subst hed
    have hlone : a.counted ra e [v] = [v] := by simp [counted, Visit.decides, he]
    have hmem : e ∈ decisionsOf ws := h.mp rfl
    have hany : a.counted ra e ws ≠ [] := fun hnil => counted_eq_nil_iff.mp hnil hmem
    rw [hlone]
    refine ⟨by simp [hany], .lone he hv hn fun _ => ?_⟩
    obtain ⟨w, hw⟩ := List.exists_mem_of_ne_nil _ hany
    exact List.any_eq_true.mpr ⟨w, hw, decides_of_mem_counted hw⟩
  · have hlone : a.counted ra d [v] = [] := by simp [counted, Visit.decides, he, hed]
    have hnil : a.counted ra d ws = [] := counted_eq_nil_iff.mpr (mt h.mpr hed)
    rw [hlone, hnil]
    exact ⟨.rfl, .refl d []⟩

/-- A child that comes to what the fold over some children does may stand for them. -/
theorem foldOutcome_flatten (a : PolicyAlgorithm) {rank : List Decision → Decision}
    (ha : a.rank? = some rank) (ra : Bool) {xs ys zs : List α} {y : α}
    (hd : ∀ x ∈ xs ++ (ys ++ zs), (f x).decision ≠ none)
    (hb : ∀ x ∈ y :: (xs ++ (ys ++ zs)), (f x).carries = false → ∀ e, broughtBy e [f x] = [])
    (hy : (f y).decision = some (a.foldOutcome f ra ys).1) (hv : (f y).declared = [])
    (hn : (f y).toNotes.Agree Eq (a.foldOutcome f ra ys).2) :
    AgreeTo Eq (a.foldOutcome f ra (xs ++ y :: zs)) (a.foldOutcome f ra (xs ++ (ys ++ zs))) := by
  have hdys : ∀ x ∈ ys, (f x).decision ≠ none := fun x hx => hd x (by simp [hx])
  have hbys : ∀ x ∈ ys, (f x).carries = false → ∀ e, broughtBy e [f x] = [] :=
    fun x hx => hb x (by simp [hx])
  have hdwhole : ∀ x ∈ xs ++ y :: zs, (f x).decision ≠ none := by
    intro x hx
    by_cases hxy : x = y
    · simp [hxy, hy]
    · exact hd x (by simp only [List.mem_append, List.mem_cons] at hx ⊢; tauto)
  have hbwhole : ∀ x ∈ xs ++ y :: zs, (f x).carries = false → ∀ e, broughtBy e [f x] = [] := by
    intro x hx
    exact hb x (by simp only [List.mem_append, List.mem_cons] at hx ⊢; tauto)
  obtain ⟨hnested, htold⟩ := a.foldOutcome_counted ha ra hdys hbys
  have hflat := a.foldOutcome_counted ha ra hd fun x hx => hb x (List.mem_cons_of_mem y hx)
  have hwhole := a.foldOutcome_counted ha ra hdwhole hbwhole
  dsimp only at hnested htold hflat hwhole
  rw [hnested] at hy
  have hds : decisionsOf ((xs ++ (ys ++ zs)).map f) =
      decisionsOf (xs.map f) ++ decisionsOf (ys.map f) ++ decisionsOf (zs.map f) := by
    simp [decisionsOf_append]
  have hsame : rank (decisionsOf ((xs ++ y :: zs).map f)) =
      rank (decisionsOf ((xs ++ (ys ++ zs)).map f)) := by
    rw [hds, ← rank_flatten ha]
    simp [decisionsOf, hy]
  rw [hsame] at hwhole
  generalize hD : rank (decisionsOf ((xs ++ (ys ++ zs)).map f)) = d at hwhole hflat
  rw [hds] at hD
  have htell : TellAlike d (a.counted ra d ((xs ++ y :: zs).map f))
      (a.counted ra d ((xs ++ (ys ++ zs)).map f)) := by
    by_cases hna : d = .notApplicable
    · subst hna
      exact .notApplicable _ _
    · have hmiddle := @counted_flatten a ra d (xs.map f) [f y] (ys.map f) (zs.map f) fun hopen =>
        counted_nested hy hv (hn.trans htold) (rank_eq_iff ha ra hD hna hopen)
      simpa using hmiddle
  exact ⟨hwhole.1.trans hflat.1.symm, hwhole.2.trans (Notes.Agree.trans htell hflat.2.symm)⟩

end PolicyAlgorithm

namespace Scene

/-- A policy set that has no target and declares nothing comes to what the fold over its children does. -/
theorem alone_plain (s : Scene) (ctx : Context) {b : PolicyAlgorithm} {h : PolicySetHeader}
    (ht : h.target = none) (ho : h.obligations = []) (hb : h.algorithm = some b) (ns : List Node) :
    let v := s.alone ctx (.policySet h (some (ns.map some)))
    let out := b.foldOutcome (s.alone ctx) s.respectAbandoned ns
    v.decision = some out.1 ∧ v.declared = [] ∧ v.toNotes.Agree Eq out.2 := by
  rw [alone_policySet, ht, ho, hb]
  simp only [Option.map_some, PolicyAlgorithm.outcome, allPresent?_map_some]
  exact ⟨rfl, rfl, rfl, rfl, rfl⟩

/-- A policy set that has no target, declares nothing and combines as the list does that it is in may be
replaced by its children. -/
theorem flatten_sameAnswer (s : Scene) (a b : PolicyAlgorithm) (ha : a ≠ .onlyOneApplicable)
    (hab : b.strategy = a.strategy) (h : PolicySetHeader) (ht : h.target = none)
    (hn : h.obligations = []) (hb : h.algorithm = some b) (xs ys zs : List Node) (ctx : Context)
    (ho : ctx.obligations = [])
    (hd : ∀ n ∈ xs ++ ys ++ zs, (s.evaluateNode n ctx.fresh).1 ≠ none) :
    SameAnswer
      (s.combineNodes a (some ((xs ++ [Node.policySet h (some (ys.map some))] ++ zs).map some)) ctx)
      (s.combineNodes a (some ((xs ++ ys ++ zs).map some)) ctx) := by
  rw [List.append_assoc, List.singleton_append, List.append_assoc]
  rw [List.append_assoc] at hd
  obtain ⟨rank, hrank⟩ := Option.ne_none_iff_exists'.mp fun hnone =>
    ha (PolicyAlgorithm.eq_onlyOneApplicable_of_rank? hnone)
  obtain ⟨hy, hv, hnotes⟩ := s.alone_plain ctx ht hn hb ys
  rw [PolicyAlgorithm.foldOutcome_congr hab] at hy hnotes
  have hagree := a.foldOutcome_flatten (f := s.alone ctx) hrank s.respectAbandoned hd
    (fun n _ hc => s.broughtBy_eq_nil ctx hc) hy hv hnotes
  obtain ⟨_, hnested⟩ := s.combineNodes_eq a s.respectAbandoned
    (some ((xs ++ Node.policySet h (some (ys.map some)) :: zs).map some)) ctx ho
  obtain ⟨_, hflat⟩ := s.combineNodes_eq a s.respectAbandoned (some ((xs ++ (ys ++ zs)).map some)) ctx ho
  rw [PolicyAlgorithm.outcome, allPresent?_map_some] at hnested hflat
  exact hagree.sameAnswer hnested hflat

/-- All that deny are heard, within the policy set and after it. -/
theorem flatten_sameAnswer_denied :
    let s := { leadingTo (.policy (.always "p" .deny ["b"])) with respectAbandoned := true }
    let h : PolicySetHeader := { id := "set", algorithm := some .orderedDenyOverrides }
    let xs := [Node.policy (.always "o" .permit ["d"])]
    let ys := [Node.policy (.always "q" .deny ["a"]), .reference "p"]
    let zs := [Node.policy (.always "r" .deny ["c"])]
    let nested := some ((xs ++ [Node.policySet h (some (ys.map some))] ++ zs).map some)
    SameAnswer (s.combineNodes .denyOverrides nested {})
        (s.combineNodes .denyOverrides (some ((xs ++ ys ++ zs).map some)) {}) ∧
      (s.combineNodes .denyOverrides nested {}).2.obligations =
        [⟨"a", .deny, []⟩, ⟨"b", .deny, []⟩, ⟨"c", .deny, []⟩] := by
  intro s h xs ys zs nested
  exact ⟨s.flatten_sameAnswer .denyOverrides .orderedDenyOverrides (by decide) rfl h rfl rfl rfl
    xs ys zs {} rfl (by decide), by decide⟩

end Scene

end Arbiter
