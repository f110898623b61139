import Arbiter.Shape.Content
import Arbiter.Yaml.Node
import Arbiter.Yaml.Plain

/-! Reading YAML nodes in a shape. Where a text or a word is expected, a scalar counts as it is written; in
values and nodes a plain one may stand for null, a boolean or a number. Aliases are followed only where they
are read, and there are bounds on how often and how deep. -/

namespace Arbiter.Yaml

/-- Tags of this kind name no type that a value could have. -/
def isLocal (tag : Option String) : Bool := tag.any (·.startsWith "!")

/-- A scalar by itself. Its tag tells its type if that is a standard one, and makes any other a text. -/
def scalarContent? (tag : Option String) (isPlain : Bool) (s : String) : Option Content :=
  match tag with
  | none => if isPlain then Plain.content? s else some (.string s)
  | some t =>
    if t = Tag.standard "null" then if Plain.isNull s then some .null else none
    else if t = Tag.standard "bool" then (Plain.boolean? s).map .bool
    else if t = Tag.standard "int" then (Plain.whole? s).join
    else if t = Tag.standard "float" then (Plain.double? s).map .double
    else if t.startsWith "!" then none
    else some (.string s)

/-- Whether a scalar is null where a value may be; `none` where its tag says so and it is not. -/
def isNullScalar? (tag : Option String) (isPlain : Bool) (s : String) : Option Bool :=
  if !isPlain then some false
  else
    match tag with
    | none => some (s.isEmpty || Plain.isNull s)
    | some t =>
      if t = Tag.standard "null" then if Plain.isNull s then some true else none
      else some false

/-- The word that a scalar stands for: its tag, if that is of its own kind and nothing follows it, or else its
text. -/
def scalarWord? (tag : Option String) (isPlain : Bool) (s : String) : Option String :=
  match tag with
  | some t =>
    if !t.startsWith "!" then some s
    else if isPlain ∧ (s.isEmpty ∨ Plain.isNull s) then some (String.ofList (t.toList.drop 1))
    else none
  | none => some s

/-- The JSON value of a scalar in a place. -/
def scalarCast? (shape : Shape) (tag : Option String) (isPlain : Bool) (s : String) : Option Json := do
  let isNull ← if shape.isNullable then isNullScalar? tag isPlain s else some false
  if isNull then return .null
  match shape.core with
  | .text => return .string s
  | .word _ => return .string (← scalarWord? tag isPlain s)
  | .value => (← scalarContent? tag isPlain s).json?
  | .list _ => if isPlain ∧ s.isEmpty then return .array [] else none
  | .record _ => if isPlain ∧ s.isEmpty then return .object [] else none
  | _ => none

/-- A reading that may fail and follows only so many more aliases. -/
abbrev Following := StateT Nat Option

namespace Graph

/-- The node that a node stands for. -/
def follow (g : Graph) : Node → Following Node
  | .aliasOf number => do
    match ← get with
    | 0 => failure
    | left + 1 =>
      set left
      g.target? number
  | n => return n

/-- The text of a scalar. -/
def text (g : Graph) (n : Node) : Following String := do
  match ← g.follow n with
  | .scalar _ _ s => return s
  | _ => failure

/-- A node by itself, in which so many collections may be open at once. -/
def content (g : Graph) (room : Nat) (n : Node) : Following Content := do
  match ← g.follow n, room with
  | .scalar tag isPlain s, _ => scalarContent? tag isPlain s
  | .sequence tag items, room + 1 =>
    if isLocal tag then failure
    return .array (← items.mapM (content g room))
  | .mapping tag pairs, room + 1 =>
    if isLocal tag then failure
    return .object (← pairs.mapM fun (k, v) => do return (← content g room k, ← content g room v))
  | _, _ => failure

/-- The pairs of a node of a policy tree. The word for its kind is a text. -/
def nodePairs (g : Graph) (room : Nat) (pairs : List (Node × Node)) : Following (List (Content × Content)) :=
  pairs.mapM fun (k, v) => do
    let key ← g.content room k
    if key.isKindKey then return (key, .string (← g.text v)) else return (key, ← g.content room v)

/-- The JSON value that a node stands for in a place. -/
def cast (g : Graph) (room : Nat) (s : Shape) (n : Node) : Following Json := do
  match ← g.follow n, room, s.core with
  | .scalar tag isPlain x, _, _ => scalarCast? s tag isPlain x
  | .sequence tag items, room + 1, .value =>
    if isLocal tag then failure
    return .array (← items.mapM (cast g room .value))
  | .sequence _ items, room + 1, .list item => return .array (← items.mapM (cast g room item))
  | .mapping tag pairs, room + 1, .value =>
    if isLocal tag then failure
    return .object (← pairs.mapM fun (k, v) => do return (← g.text k, ← cast g room .value v))
  | .mapping _ pairs, room + 1, .record kind =>
    let fields ← pairs.filterMapM fun (k, v) => do
      let name ← g.text k
      match kind.field? name with
      | none => return none
      | some shape => return some (name, ← cast g room shape v)
    return .object fields
  | .mapping tag pairs, room + 1, .node =>
    if isLocal tag then failure
    (Content.object (← g.nodePairs room pairs)).cast? .node
  | _, _, _ => failure

/-- How many collections may be open at once where they are read. -/
def depthLimit : Nat := 128

end Graph

/-- Reads a document in a shape. A text without one is an empty scalar. -/
def read? (s : Shape) (text : String) : Option Json := do
  match ← Graph.ofText? .document text with
  | none => scalarCast? s none true ""
  | some g => (g.cast Graph.depthLimit s g.root).run' g.aliasLimit

end Arbiter.Yaml
