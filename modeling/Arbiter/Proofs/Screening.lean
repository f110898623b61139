import Arbiter.Proofs.Tree

namespace Arbiter

/-- How the target of a child turned out, from what its evaluation came to. One that was cut short for
want of an algorithm had matched. -/
def Visit.screen (v : Visit) : MatchResult :=
  if v.decision.isNone || v.applicable then .matched
  else if v.decides .notApplicable then .unmatched
  else .indeterminate

theorem Matching.matchTarget_eq (m : Matching) (target : Option Condition) :
    (m.matchTarget target {}).1 = (m.targetOutcome target).1 :=
  congrArg (·.1) (m.matchTarget_after target {})

namespace Scene

/-- How the target of a node turns out where so many more references may be opened. A reference stands
for the node it leads to; where it leads nowhere or too deep, nobody can tell. -/
def screeningWithin (s : Scene) : Nat → Node → MatchResult
  | _, .policy p => (s.matching.matchTarget p.target {}).1
  | _, .policySet h _ => (s.matching.matchTarget h.target {}).1
  | 0, .reference _ => .indeterminate
  | k + 1, .reference id =>
    match s.resolve id with
    | none => .indeterminate
    | some n => s.screeningWithin k n

def screening (s : Scene) (ctx : Context) : Node → MatchResult := s.screeningWithin (room ctx)

theorem screenedVisit_screen (m : Matching) (target : Option Condition)
    (out : Option (Decision × Notes)) (declared : List Obligation) (carries : Bool) :
    (screenedVisit m target out declared carries).screen = (m.matchTarget target {}).1 := by
  rw [m.matchTarget_eq target]
  unfold screenedVisit
  rcases m.targetOutcome target with ⟨t, n⟩
  cases t with
  | unmatched => rfl
  | indeterminate => rfl
  | matched => cases out <;> rfl

theorem policySet_screen (s : Scene) (visitOf : Option (Node → Visit)) (h : PolicySetHeader)
    (children : Option (List (Option Node))) :
    ((Node.policySet h children).visit s visitOf).screen = (s.matching.matchTarget h.target {}).1 := by
  rw [Node.visit_policySet]
  exact screenedVisit_screen ..

theorem visitWithin_screen (s : Scene) (k : Nat) (n : Node) :
    (s.visitWithin k n).screen = s.screeningWithin k n := by
  induction k generalizing n with
  | zero =>
    cases n with
    | policy p => exact screenedVisit_screen ..
    | policySet h children => exact s.policySet_screen none h children
    | reference id =>
      show (s.followedVisit none id).screen = .indeterminate
      unfold followedVisit
      cases s.resolve id <;> rfl
  | succ k ih =>
    cases n with
    | policy p => exact screenedVisit_screen ..
    | policySet h children => exact s.policySet_screen (some (s.visitWithin k)) h children
    | reference id =>
      show (s.followedVisit (some (s.visitWithin k)) id).screen = _
      unfold followedVisit screeningWithin
      cases s.resolve id with
      | none => rfl
      | some n => exact ih n

/-- What a node comes to alone shows how its target turned out. -/
theorem alone_screen (s : Scene) (ctx : Context) (n : Node) :
    (s.alone ctx n).screen = s.screening ctx n := by
  rw [alone_eq_visitWithin]
  exact s.visitWithin_screen (room ctx) n

end Scene

namespace PolicyAlgorithm

variable {f : α → Visit}

/-- The search for the one applicable child goes by how the targets turn out. -/
theorem soleOutcome_cons (sole : Option Visit) {v : Visit} (hv : v.decision ≠ none) (vs : List Visit) :
    soleOutcome sole (v :: vs) =
      match v.screen with
      | .matched =>
        if sole.isSome then (.indeterminate, { codes := [.processingError] })
        else soleOutcome (some v) vs
      | .unmatched => soleOutcome sole vs
      | .indeterminate => rankedOutcome firstApplying [v] := by
  obtain ⟨d, hd⟩ := Option.ne_none_iff_exists'.mp hv
  cases ha : v.applicable with
  | true => simp [soleOutcome, Visit.screen, hd, ha]
  | false => cases hq : v.decides .notApplicable <;> simp [soleOutcome, Visit.screen, hd, ha, hq]

theorem head_mem_searched (found : Bool) (x : α) (xs : List α) : x ∈ searched f found (x :: xs) := by
  unfold searched
  split
  · simp
  · split
    · split <;> simp
    · split <;> simp

theorem searched_cons (found : Bool) {x : α} (hx : (f x).decision ≠ none) (xs : List α) :
    searched f found (x :: xs) =
      match (f x).screen with
      | .matched => if found then [x] else x :: searched f true xs
      | .unmatched => x :: searched f found xs
      | .indeterminate => [x] := by
  obtain ⟨d, hd⟩ := Option.ne_none_iff_exists'.mp hx
  cases ha : (f x).applicable with
  | true => simp [searched, Visit.screen, hd, ha]
  | false => cases hq : (f x).decides .notApplicable <;> simp [searched, Visit.screen, hd, ha, hq]

end PolicyAlgorithm

end Arbiter
