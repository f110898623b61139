import Arbiter.Document

namespace Arbiter

structure Store where
  nodes : List Node := []
  /-- Grows with every change, so that equal generations mean equal contents. It never wraps here, as a
  64-bit word would after 2^64 changes. -/
  generation : Nat := 0
  deriving DecidableEq

namespace Store

/-- Puts a node in the place of the one with its id, or at the end. -/
def put (n : Node) : List Node → List Node
  | [] => [n]
  | m :: ms => if m.id = n.id then n :: ms else m :: put n ms

def insert (s : Store) (n : Node) : Except Invalid Store :=
  match n.invalidAtTop? with
  | some i => .error i
  | none => .ok ⟨put n s.nodes, s.generation + 1⟩

/-- Inserts nodes one after another. The first that is refused ends this, and those before it stay. -/
def insertAll (s : Store) : List Node → Except Invalid Unit × Store
  | [] => (.ok (), s)
  | n :: ns =>
    match s.insert n with
    | .error i => (.error i, s)
    | .ok s => s.insertAll ns

/-- Checks a document as a whole, then inserts its nodes and tells how many they were. -/
def load (s : Store) (d : Document) : Except Invalid Nat × Store :=
  match d.invalid? with
  | some i => (.error i, s)
  | none =>
    match s.insertAll d.policies with
    | (.error i, s) => (.error i, s)
    | (.ok (), s) => (.ok d.policies.length, s)

/-- The store with all nodes of a document in it, if the document as a whole is valid. -/
def insertDocument (s : Store) (d : Document) : Except Invalid Store :=
  match d.invalid? with
  | some i => .error i
  | none => d.policies.foldlM insert s

def get? (s : Store) (id : String) : Option Node := s.nodes.find? (·.id = id)

/-- Takes a node out. Only that changes the store: an unknown id does not. -/
def remove? (s : Store) (id : String) : Option (Node × Store) :=
  (s.get? id).map fun n => (n, ⟨s.nodes.eraseP (·.id = id), s.generation + 1⟩)

def clear (s : Store) : Store := ⟨[], s.generation + 1⟩

def ids (s : Store) : List String := s.nodes.map (·.id)

/-- The enabled nodes by falling priority, equal ones in the order of the store. -/
def candidates (s : Store) : List Node :=
  (s.nodes.filter (·.isEnabled)).mergeSort fun a b => decide (b.priority ≤ a.priority)

end Store

end Arbiter
