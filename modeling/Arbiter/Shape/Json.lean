import Arbiter.Json.Tree
import Arbiter.Shape.Content

/-! Reading JSON trees in a shape. What a record does not know is passed over, whatever it holds. Nodes are
read as content first, since their kinds may come after their fields. -/

namespace Arbiter.Json

/-- The value of a node as content. A node that is in no other one tells its kind by a word. -/
def castNode? (j : Json) : Option Json :=
  match j with
  | .object members =>
    match members.filter (·.1 = "kind") with
    | [(_, .string _)] => (Content.ofJson j).cast? .node
    | _ => none
  | _ => none

namespace Tree

/-- A word alone in an object, beside null. -/
def loneWord? : List (Option String × Tree) → Option Json
  | [(k, .null)] => k.map .string
  | _ => none

mutual

/-- The JSON value that a tree stands for in a place, so many arrays and objects being allowed to be open at
once. -/
def cast? (room : Nat) (s : Shape) : Tree → Option Json
  | null => if s.isNullable then some .null else match s.core with
    | .value => some .null
    | _ => none
  | string x => match s.core with
    | .value | .text | .word _ => x.map .string
    | _ => none
  | array items => if room = 0 then none else match s.core with
    | .value => json? room (array items)
    | .list item => (castItems? (room - 1) item items).map .array
    | _ => none
  | object members => if room = 0 then none else match s.core with
    | .value => json? room (object members)
    | .word _ => loneWord? members
    | .record k => (castFields? (room - 1) k members).map .object
    | .node => (json? room (object members)).bind castNode?
    | _ => none
  | t => match s.core with
    | .value => json? room t
    | _ => none

def castItems? (room : Nat) (item : Shape) : List Tree → Option (List Json)
  | [] => some []
  | t :: ts => do return (← cast? room item t) :: (← castItems? room item ts)

def castFields? (room : Nat) (k : RecordKind) :
    List (Option String × Tree) → Option (List (String × Json))
  | [] => some []
  | (key, t) :: rest => do
    let name ← key
    match k.field? name with
    | none => castFields? room k rest
    | some shape => return (name, ← cast? room shape t) :: (← castFields? room k rest)

end

end Tree

/-- Reads a text in a shape. -/
def read? (s : Shape) (text : String) : Option Json :=
  (Tree.ofText? text).bind (Tree.cast? Tree.depthLimit s)

end Arbiter.Json
