import Arbiter.Combining.Algorithm
import Arbiter.Condition.Basic
import Arbiter.Obligation

/-! The policy tree: rules in policies, and policies, policy sets and references in policy sets.

A tree is stored as it was written. Algorithms may be missing, lists absent and their slots empty;
such defects surface when the tree is evaluated. -/

namespace Arbiter

/-- The present elements of a list that may be absent and may have empty slots. -/
def presentIn : Option (List (Option α)) → List α
  | none => []
  | some slots => slots.filterMap id

/-- All elements of such a list, if it is there and no slot is empty. -/
def allPresent? : Option (List (Option α)) → Option (List α)
  | none => none
  | some slots => slots.mapM id

structure Rule where
  id : String
  description : Option String := none
  effect : Effect
  target : Option Condition := none
  condition : Option Condition := none
  obligations : List Obligation := []
  deriving DecidableEq

structure Policy where
  id : String
  description : Option String := none
  version : String := "1.0"
  target : Option Condition := none
  algorithm : Option RuleAlgorithm := none
  rules : Option (List (Option Rule)) := none
  obligations : List Obligation := []
  enabled : Bool := true
  priority : Int32 := 0
  deriving DecidableEq

/-- A policy set without its children. -/
structure PolicySetHeader where
  id : String
  description : Option String := none
  target : Option Condition := none
  algorithm : Option PolicyAlgorithm := none
  obligations : List Obligation := []
  enabled : Bool := true
  priority : Int32 := 0
  deriving DecidableEq

inductive Node where
  | policy (p : Policy)
  | policySet (header : PolicySetHeader) (children : Option (List (Option Node)))
  /-- Stands for the node of that id in the index, which is looked up on evaluation. -/
  | reference (id : String)

namespace Rule

def carriesObligations (r : Rule) : Bool := !r.obligations.isEmpty

end Rule

namespace Policy

def presentRules (p : Policy) : List Rule := presentIn p.rules

def carriesObligations (p : Policy) : Bool :=
  !p.obligations.isEmpty || p.presentRules.any (·.carriesObligations)

/-- A policy with an algorithm and no rules yet. -/
def ofAlgorithm (id : String) (a : RuleAlgorithm) : Policy :=
  { id, algorithm := a, rules := some [] }

/-- A policy with an empty list of rules and nothing else. -/
def ofId (id : String) : Policy := { id, rules := some [] }

/-- Adds a slot at the end; an absent list is started. -/
def addSlot (p : Policy) (r : Option Rule) : Policy :=
  { p with rules := some (p.rules.getD [] ++ [r]) }

def addRule (p : Policy) (r : Rule) : Policy := p.addSlot (some r)

end Policy

namespace Node

mutual

def decEq : (a b : Node) → Decidable (a = b)
  | policy p, policy q => if h : p = q then isTrue (by rw [h]) else isFalse (by simp [h])
  | policySet h cs, policySet g ds =>
    match decEqChildren cs ds with
    | isTrue e => if e' : h = g then isTrue (by rw [e, e']) else isFalse (by simp [e'])
    | isFalse e => isFalse (by simp [e])
  | reference i, reference j => if h : i = j then isTrue (by rw [h]) else isFalse (by simp [h])
  | policy _, policySet _ _ | policy _, reference _ | policySet _ _, policy _
  | policySet _ _, reference _ | reference _, policy _ | reference _, policySet _ _ =>
    isFalse (by simp)

def decEqChildren : (a b : Option (List (Option Node))) → Decidable (a = b)
  | none, none => isTrue rfl
  | none, some _ | some _, none => isFalse (by simp)
  | some xs, some ys =>
    match decEqSlots xs ys with
    | isTrue h => isTrue (by rw [h])
    | isFalse h => isFalse (by simp [h])

def decEqSlots : (a b : List (Option Node)) → Decidable (a = b)
  | [], [] => isTrue rfl
  | [], _ :: _ | _ :: _, [] => isFalse (by simp)
  | x :: xs, y :: ys =>
    match decEqSlot x y, decEqSlots xs ys with
    | isTrue h, isTrue h' => isTrue (by rw [h, h'])
    | isFalse h, _ => isFalse (by simp [h])
    | _, isFalse h => isFalse (by simp [h])

def decEqSlot : (a b : Option Node) → Decidable (a = b)
  | none, none => isTrue rfl
  | none, some _ | some _, none => isFalse (by simp)
  | some x, some y =>
    match decEq x y with
    | isTrue h => isTrue (by rw [h])
    | isFalse h => isFalse (by simp [h])

end

instance : DecidableEq Node := decEq

def kind : Node → String
  | policy _ => "policy"
  | policySet _ _ => "policySet"
  | reference _ => "reference"

def id : Node → String
  | policy p => p.id
  | policySet h _ => h.id
  | reference id => id

def target : Node → Option Condition
  | policy p => p.target
  | policySet h _ => h.target
  | reference _ => none

/-- The obligations a node declares itself. -/
def obligations : Node → List Obligation
  | policy p => p.obligations
  | policySet h _ => h.obligations
  | reference _ => []

def algorithmUrn : Node → Option String
  | policy p => p.algorithm.map (·.urn)
  | policySet h _ => h.algorithm.map (·.urn)
  | reference _ => none

def isEnabled : Node → Bool
  | policy p => p.enabled
  | policySet h _ => h.enabled
  | reference _ => true

def priority : Node → Int32
  | policy p => p.priority
  | policySet h _ => h.priority
  | reference _ => 0

mutual

/-- Whether a tree may bring obligations. What a reference brings is not known before evaluation. -/
def carriesObligations : Node → Bool
  | policy p => p.carriesObligations
  | policySet h children => !h.obligations.isEmpty || childrenCarry children
  | reference _ => true

def childrenCarry : Option (List (Option Node)) → Bool
  | none => false
  | some slots => slotsCarry slots

def slotsCarry : List (Option Node) → Bool
  | [] => false
  | s :: slots => slotCarries s || slotsCarry slots

def slotCarries : Option Node → Bool
  | none => false
  | some n => n.carriesObligations

end

end Node

end Arbiter
