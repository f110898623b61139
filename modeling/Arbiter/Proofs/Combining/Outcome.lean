import Arbiter.Proofs.Visit

namespace Arbiter

/-- The first decision of an order of rank that some child came to. -/
def foremost (order ds : List Decision) : Decision := (order.find? (· ∈ ds)).getD .notApplicable

/-- The rank of decisions where an effect overrides: deny outranks faults and faults permit, but both
effects outrank faults where permit overrides. -/
def rankOrder : Effect → List Decision
  | .deny => [.deny, .indeterminate, .permit]
  | .permit => [.permit, .deny, .indeterminate]

def decisionsOf (vs : List Visit) : List Decision := vs.filterMap (·.decision)

/-- What a fold leaves that reached a node without an algorithm. -/
def illFormedNotes (vs : List Visit) : Notes := { codes := [.syntaxError], lookups := lookupsOf vs }

/-- What a fold comes to that ranks the decisions of its visits, if none of them is ill-formed. -/
def rankedOutcome (rank : List Decision → Decision) (vs : List Visit) : Decision × Notes :=
  if vs.any (·.decision.isNone) then (.indeterminate, illFormedNotes vs)
  else (rank (decisionsOf vs), closing (rank (decisionsOf vs)) vs)

/-- The first decision of a child that applies. -/
def firstApplying (ds : List Decision) : Decision :=
  (ds.find? (· ≠ .notApplicable)).getD .notApplicable

/-- What the search for the one applicable child comes to after it has found `sole`, its lookups
aside. -/
def soleOutcome (sole : Option Visit) : List Visit → Decision × Notes
  | [] =>
    match sole with
    | none => (.notApplicable, {})
    | some v => rankedOutcome firstApplying [v]
  | v :: vs =>
    if v.decision = none then (.indeterminate, illFormedNotes [])
    else if v.applicable then
      if sole.isSome then (.indeterminate, { codes := [.processingError] })
      else soleOutcome (some v) vs
    else if v.decides .notApplicable then soleOutcome sole vs
    else rankedOutcome firstApplying [v]

/-- How an algorithm goes about the children of a policy set. -/
inductive Strategy where
  | overriding (winner : Effect)
  | firstApplicable
  | onlyOneApplicable

namespace PolicyAlgorithm

def strategy : PolicyAlgorithm → Strategy
  | denyOverrides | orderedDenyOverrides => .overriding .deny
  | permitOverrides | orderedPermitOverrides => .overriding .permit
  | firstApplicable => .firstApplicable
  | onlyOneApplicable => .onlyOneApplicable

/-- How the decisions that the children come to alone settle the decision of the fold, for the
algorithms that ask for nothing else. -/
def rank? (a : PolicyAlgorithm) : Option (List Decision → Decision) :=
  match a.strategy with
  | .overriding winner => some (foremost (rankOrder winner))
  | .firstApplicable => some firstApplying
  | .onlyOneApplicable => none

theorem eq_onlyOneApplicable_of_rank? {a : PolicyAlgorithm} (h : a.rank? = none) :
    a = .onlyOneApplicable := by
  cases a <;> simp [rank?, strategy] at h
  rfl

variable (f : α → Visit)

/-- The children an overriding fold visits, `won` telling whether one before decided the overriding
effect. After that only those count that may bring obligations. -/
def reached (winner : Effect) (respectAbandoned : Bool) (won : Bool) : List α → List α
  | [] => []
  | x :: xs =>
    if won && !(f x).carries then reached winner respectAbandoned won xs
    else if (f x).decision = none ∨ ((f x).decides winner.decision ∧ respectAbandoned = false) then [x]
    else x :: reached winner respectAbandoned (won || (f x).decides winner.decision) xs

/-- The children visited in search of the one that is applicable. -/
def searched (found : Bool) : List α → List α
  | [] => []
  | x :: xs =>
    if (f x).decision = none then [x]
    else if (f x).applicable then if found then [x] else x :: searched true xs
    else if (f x).decides .notApplicable then x :: searched found xs
    else [x]

/-- The children that a fold visits. -/
def visited (a : PolicyAlgorithm) (respectAbandoned : Bool) (xs : List α) : List α :=
  match a.strategy with
  | .overriding winner => reached f winner respectAbandoned false xs
  | .firstApplicable => upTo (fun x => !(f x).decides .notApplicable) xs
  | .onlyOneApplicable => searched f false xs

/-- What a fold over children comes to. -/
def foldOutcome (a : PolicyAlgorithm) (respectAbandoned : Bool) (xs : List α) : Decision × Notes :=
  let vs := (a.visited f respectAbandoned xs).map f
  match a.rank? with
  | some rank => rankedOutcome rank vs
  | none =>
    ((soleOutcome none (xs.map f)).1, { (soleOutcome none (xs.map f)).2 with lookups := lookupsOf vs })

/-- What combining a list of children comes to, as a policy set holds it. -/
def outcome (a : PolicyAlgorithm) (respectAbandoned : Bool) (slots : Option (List (Option α))) :
    Decision × Notes :=
  match allPresent? slots with
  | none => (.indeterminate, { codes := [.syntaxError] })
  | some xs => a.foldOutcome f respectAbandoned xs

end PolicyAlgorithm

theorem any_decides (vs : List Visit) (d : Decision) :
    vs.any (·.decides d) = decide (d ∈ decisionsOf vs) := by
  rw [Bool.eq_iff_iff]
  simp [decisionsOf, Visit.decides]

theorem decisionsOf_map (f : α → Visit) (xs : List α) :
    decisionsOf (xs.map f) = (xs.map fun x => (f x).decision).filterMap id := by
  rw [decisionsOf, List.filterMap_map, List.filterMap_map]
  rfl

theorem rankedOutcome_of_decided (rank : List Decision → Decision) {vs : List Visit}
    (h : vs.any (·.decision.isNone) = false) :
    rankedOutcome rank vs = (rank (decisionsOf vs), closing (rank (decisionsOf vs)) vs) := by
  simp [rankedOutcome, h]

theorem rankedOutcome_lookups (rank : List Decision → Decision) (vs : List Visit) :
    { (rankedOutcome rank vs).2 with lookups := lookupsOf vs } = (rankedOutcome rank vs).2 := by
  unfold rankedOutcome
  split <;> rfl

theorem foremost_winner {winner : Effect} {ds : List Decision} (h : winner.decision ∈ ds) :
    foremost (rankOrder winner) ds = winner.decision := by
  cases winner <;> simp_all [foremost, rankOrder, Effect.decision]

theorem finish_winner (winner : Effect) {vs : List Visit} (hs : ∀ v ∈ vs, v.Sound)
    (hn : vs.any (·.decision.isNone) = false) (hw : winner.decision ∈ decisionsOf vs) (ctx : Context) :
    Harvest.finish (vs.flatMap (·.harvest)) winner.decision ctx =
      ((rankedOutcome (foremost (rankOrder winner)) vs).1,
        ctx.after { (rankedOutcome (foremost (rankOrder winner)) vs).2 with lookups := [] }) := by
  have hi : winner.decision ≠ .indeterminate := by cases winner <;> decide
  rw [finish_eq_closing hs hi, rankedOutcome_of_decided _ hn, foremost_winner hw]

theorem allPresent?_map (g : α → β) (slots : Option (List (Option α))) :
    allPresent? (slots.map (·.map (·.map g))) = (allPresent? slots).map (·.map g) := by
  cases slots with
  | none => rfl
  | some xs =>
    simp only [Option.map_some, allPresent?]
    induction xs with
    | nil => rfl
    | cons x xs ih => cases x <;> cases h : xs.mapM id <;> simp_all

theorem allPresent?_map_some (xs : List α) : allPresent? (some (xs.map some)) = some xs := by
  simp only [allPresent?]
  induction xs with
  | nil => rfl
  | cons x xs ih => simp_all

namespace PolicyAlgorithm

variable {f : α → Visit}

/-- A ranking that looks past a child that does not apply. -/
theorem rankedOutcome_cons {v : Visit} (hv : v.decision = some .notApplicable) (vs : List Visit) :
    rankedOutcome firstApplying (v :: vs) =
      ((rankedOutcome firstApplying vs).1, (rankedOutcome firstApplying vs).2.following v.lookups) := by
  have hf : firstApplying (decisionsOf (v :: vs)) = firstApplying (decisionsOf vs) := by
    simp [firstApplying, decisionsOf, hv]
  cases h : vs.any (·.decision.isNone) with
  | true => simp [rankedOutcome, hv, h, illFormedNotes, Notes.following, lookupsOf]
  | false => simp [rankedOutcome, hv, h, hf, closing_cons hv]

theorem rankedOutcome_lone {v : Visit} {d : Decision} (hv : v.decision = some d)
    (hd : d ≠ .notApplicable) :
    rankedOutcome firstApplying [v] = (d, closing d [v]) := by
  simp [rankedOutcome, firstApplying, decisionsOf, hv, hd]

theorem rankedOutcome_fits (rank : List Decision → Decision) {vs : List Visit}
    (hv : ∀ v ∈ vs, v.Sound) : (rankedOutcome rank vs).2.Fits (rankedOutcome rank vs).1 := by
  unfold rankedOutcome
  split
  · exact fault_fits (by decide) _
  · exact closing_fits hv _

theorem soleOutcome_fits {sole : Option Visit} {vs : List Visit} (hs : ∀ v ∈ sole, v.Sound)
    (hv : ∀ v ∈ vs, v.Sound) : (soleOutcome sole vs).2.Fits (soleOutcome sole vs).1 := by
  induction vs generalizing sole with
  | nil =>
    cases sole with
    | none => exact ⟨fun _ ho => by simp [soleOutcome] at ho, by simp [soleOutcome]⟩
    | some v => exact rankedOutcome_fits _ (by simpa using hs v rfl)
  | cons v vs ih =>
    have hvs : ∀ w ∈ vs, w.Sound := fun w hw => hv w (List.mem_cons_of_mem v hw)
    have hl : ∀ w ∈ [v], w.Sound := by simpa using hv v List.mem_cons_self
    unfold soleOutcome
    split
    · exact fault_fits (by decide) _
    · split
      · split
        · exact fault_fits (by decide) _
        · exact ih (by simpa using hl) hvs
      · split
        · exact ih hs hvs
        · exact rankedOutcome_fits _ hl

section

variable {winner : Effect} {ra won : Bool} {x : α}

theorem reached_skipped (hx : won && !(f x).carries) (xs : List α) :
    reached f winner ra won (x :: xs) = reached f winner ra won xs :=
  if_pos hx

theorem mem_reached (hx : (won && !(f x).carries) = false) (xs : List α) :
    x ∈ reached f winner ra won (x :: xs) := by
  simp only [reached, hx, Bool.false_eq_true, if_false]
  split <;> simp

theorem reached_last (hx : (won && !(f x).carries) = false)
    (hl : (f x).decides winner.decision ∧ ra = false) (xs : List α) :
    reached f winner ra won (x :: xs) = [x] := by
  simp [reached, hx, hl]

theorem reached_further (hx : (won && !(f x).carries) = false) (hd : (f x).decision ≠ none)
    (hl : ¬((f x).decides winner.decision ∧ ra = false)) (xs : List α) :
    reached f winner ra won (x :: xs) =
      x :: reached f winner ra (won || (f x).decides winner.decision) xs := by
  simp [reached, hx, hd, hl]

end

theorem reached_sublist (winner : Effect) (ra won : Bool) (xs : List α) :
    (reached f winner ra won xs).Sublist xs := by
  induction xs generalizing won with
  | nil => exact .slnil
  | cons x xs ih =>
    unfold reached
    split
    · exact (ih won).cons x
    · split
      · simp
      · simpa using ih _

theorem searched_sublist (found : Bool) (xs : List α) : (searched f found xs).Sublist xs := by
  induction xs generalizing found with
  | nil => exact .slnil
  | cons x xs ih =>
    unfold searched
    split
    · simp
    · split
      · split
        · simp
        · simpa using ih true
      · split
        · simpa using ih found
        · simp

theorem visited_sublist (a : PolicyAlgorithm) (ra : Bool) (xs : List α) :
    (a.visited f ra xs).Sublist xs := by
  unfold visited
  cases a.strategy with
  | overriding winner => exact reached_sublist winner ra false xs
  | firstApplicable => exact upTo_sublist _ xs
  | onlyOneApplicable => exact searched_sublist false xs

theorem outcome_fits (a : PolicyAlgorithm) (ra : Bool) (slots : Option (List (Option α)))
    (hv : ∀ xs, allPresent? slots = some xs → ∀ x ∈ xs, (f x).Sound) :
    (a.outcome f ra slots).2.Fits (a.outcome f ra slots).1 := by
  unfold outcome
  cases h : allPresent? slots with
  | none => exact fault_fits (by decide) []
  | some xs =>
    have hs : ∀ v ∈ (a.visited f ra xs).map f, v.Sound := by
      intro v hm
      obtain ⟨x, hx, rfl⟩ := List.mem_map.mp hm
      exact hv xs h x ((a.visited_sublist ra xs).subset hx)
    have hone : ∀ v ∈ xs.map f, v.Sound := by
      intro v hm
      obtain ⟨x, hx, rfl⟩ := List.mem_map.mp hm
      exact hv xs h x hx
    simp only [foldOutcome]
    cases a.rank? with
    | some rank => exact rankedOutcome_fits rank hs
    | none =>
      have ho := @soleOutcome_fits none (xs.map f) (by simp) hone
      exact ⟨ho.bound, ho.codes_ne_ok⟩

section

variable (g : β → α)

theorem reached_map (winner : Effect) (ra won : Bool) (ys : List β) :
    reached f winner ra won (ys.map g) = (reached (fun y => f (g y)) winner ra won ys).map g := by
  induction ys generalizing won with
  | nil => rfl
  | cons y ys ih =>
    simp only [List.map_cons, reached, ih]
    split
    · rfl
    · split <;> rfl

theorem searched_map (found : Bool) (ys : List β) :
    searched f found (ys.map g) = (searched (fun y => f (g y)) found ys).map g := by
  induction ys generalizing found with
  | nil => rfl
  | cons y ys ih =>
    simp only [List.map_cons, searched, ih]
    split
    · rfl
    · split
      · split <;> rfl
      · split <;> rfl

theorem upTo_map (p : α → Bool) (ys : List β) :
    upTo p (ys.map g) = (upTo (fun y => p (g y)) ys).map g := by
  induction ys with
  | nil => rfl
  | cons y ys ih =>
    simp only [List.map_cons, upTo, ih]
    split <;> rfl

theorem visited_map (a : PolicyAlgorithm) (ra : Bool) (ys : List β) :
    a.visited f ra (ys.map g) = (a.visited (fun y => f (g y)) ra ys).map g := by
  unfold visited
  cases a.strategy with
  | overriding winner => exact reached_map g winner ra false ys
  | firstApplicable => exact upTo_map g _ ys
  | onlyOneApplicable => exact searched_map g false ys

/-- What a fold comes to hangs on the visits alone. -/
theorem outcome_map (a : PolicyAlgorithm) (ra : Bool) (slots : Option (List (Option β))) :
    a.outcome f ra (slots.map (·.map (·.map g))) = a.outcome (fun y => f (g y)) ra slots := by
  rw [outcome, outcome, allPresent?_map]
  cases allPresent? slots with
  | none => rfl
  | some ys =>
    simp only [Option.map_some, foldOutcome, visited_map, List.map_map, Function.comp_def]

end

end PolicyAlgorithm

end Arbiter
