import Arbiter.Proofs.Tree

namespace Arbiter

namespace Node

/-- A reference stands for another node and combines nothing, so it lacks no algorithm. -/
def hasAlgorithm : Node → Bool
  | policy p => p.algorithm.isSome
  | policySet h _ => h.algorithm.isSome
  | reference _ => true

end Node

namespace Scene

inductive Reaches (s : Scene) : Node → Node → Prop
  | self (n : Node) : Reaches s n n
  | child {h children n m} : n ∈ presentIn children → Reaches s n m →
      Reaches s (.policySet h children) m
  | reference {id n m} : s.resolve id = some n → Reaches s n m → Reaches s (.reference id) m

/-- Every policy and policy set that may be reached has an algorithm. -/
def Equipped (s : Scene) (n : Node) : Prop := ∀ m, s.Reaches n m → m.hasAlgorithm

namespace Equipped

variable {s : Scene}

theorem child {h : PolicySetHeader} {children : Option (List (Option Node))}
    (he : s.Equipped (.policySet h children)) {n : Node} (hn : n ∈ presentIn children) :
    s.Equipped n :=
  fun m hm => he m (.child hn hm)

theorem behind {id : String} (he : s.Equipped (.reference id)) {n : Node}
    (hn : s.resolve id = some n) : s.Equipped n :=
  fun m hm => he m (.reference hn hm)

end Equipped

theorem screenedVisit_decided {m : Matching} {target : Option Condition}
    {out : Option (Decision × Notes)} (ho : out.isSome) (declared : List Obligation) (carries : Bool) :
    (screenedVisit m target out declared carries).decision ≠ none := by
  obtain ⟨o, rfl⟩ := Option.isSome_iff_exists.mp ho
  unfold screenedVisit
  split <;> simp

theorem visit_decided (s : Scene) {visitOf : Option (Node → Visit)}
    (hf : ∀ f ∈ visitOf, ∀ n, s.Equipped n → (f n).decision ≠ none) {n : Node} (he : s.Equipped n) :
    (n.visit s visitOf).decision ≠ none := by
  have hown : n.hasAlgorithm := he n (.self n)
  cases n with
  | policy p => exact screenedVisit_decided (by simpa [Node.hasAlgorithm] using hown) _ _
  | policySet h children =>
    rw [Node.visit_policySet]
    exact screenedVisit_decided (by simpa [Node.hasAlgorithm] using hown) _ _
  | reference id =>
    unfold Node.visit followedVisit
    split
    · rename_i n f hn
      exact hf f rfl n (he.behind hn)
    · simp [lostVisit]

/-- A node is cut short only for want of an algorithm. -/
theorem Equipped.decided {s : Scene} {n : Node} (he : s.Equipped n) (k : Nat) :
    (s.visitWithin k n).decision ≠ none := by
  induction k generalizing n with
  | zero => exact s.visit_decided (by simp) he
  | succ k ih =>
    apply s.visit_decided _ he
    rintro f hf m hm
    obtain rfl : s.visitWithin k = f := by simpa using hf
    exact ih hm

theorem Equipped.alone_decided {s : Scene} {n : Node} (he : s.Equipped n) (ctx : Context) :
    (s.alone ctx n).decision ≠ none := by
  rw [alone_eq_visitWithin]
  exact he.decided (room ctx)

end Scene

end Arbiter
