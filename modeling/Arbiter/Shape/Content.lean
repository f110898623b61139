import Arbiter.Content
import Arbiter.Shape.Basic

namespace Arbiter

/-- The field that a key tells, if the record knows it. Keys that are neither texts nor places tell none. -/
def RecordKind.fieldAt? (k : RecordKind) : Content → Option (Option (String × Shape))
  | .string name => some (k.fields.find? (·.1 = name))
  | .natural i => some k.fields[i]?
  | _ => none

/-- The word at a key. -/
def Shape.wordAt? (names : List String) : Content → Option String
  | .string name => some name
  | .natural i => names[i]?
  | _ => none

/-- The kind of node that a value tells. -/
def RecordKind.ofContent? : Content → Option (String × RecordKind)
  | .string name => nodes.find? (·.1 = name)
  | .natural i => nodes[i]?
  | _ => none

namespace Content

/-- Whether a key is the one under which a node tells its kind. -/
def isKindKey : Content → Bool
  | string s => s = "kind"
  | _ => false

/-- The kind of a node, told once. -/
def kind? (pairs : List (Content × Content)) : Option (String × RecordKind) :=
  match pairs.filter (·.1.isKindKey) with
  | [(_, v)] => RecordKind.ofContent? v
  | _ => none

/-- Nothing, as it may stand beside a word. -/
def isNothing : Content → Bool
  | null => true
  | object pairs => pairs.isEmpty
  | _ => false

/-- A word alone in an object. -/
def loneWord? (names : List String) : List (Content × Content) → Option Json
  | [(key, v)] => if v.isNothing then (Shape.wordAt? names key).map .string else none
  | _ => none

mutual

/-- The JSON value that content stands for in a place. -/
def cast? (s : Shape) : Content → Option Json
  | null => if s.isNullable then some .null else match s.core with
    | .value => some .null
    | _ => none
  | string x => match s.core with
    | .value | .text | .word _ => some (.string x)
    | _ => none
  | array items => match s.core with
    | .value => json? (array items)
    | .list item => (castItems? item items).map .array
    | _ => none
  | object pairs => match s.core with
    | .value => json? (object pairs)
    | .word names => loneWord? names pairs
    | .record k => (castFields? k pairs).map .object
    | .node => do
      let (name, k) ← kind? pairs
      return .object (("kind", .string name) :: (← castFields? k pairs))
    | _ => none
  | c => match s.core with
    | .value => json? c
    | _ => none

def castItems? (item : Shape) : List Content → Option (List Json)
  | [] => some []
  | c :: cs => do return (← cast? item c) :: (← castItems? item cs)

def castFields? (k : RecordKind) : List (Content × Content) → Option (List (String × Json))
  | [] => some []
  | (key, v) :: rest => do
    match ← k.fieldAt? key with
    | none => castFields? k rest
    | some (name, shape) => return (name, ← cast? shape v) :: (← castFields? k rest)

end

end Content

end Arbiter
