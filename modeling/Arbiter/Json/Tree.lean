import Arbiter.Json.Token

/-! The tree of a JSON text, found by a stack of open arrays and objects that its tokens drive. A tree may hold
what no value has: numbers that are too large, and texts with half a character. They count only where they
are read, and so does depth. -/

namespace Arbiter.Json

inductive Tree where
  | null
  | bool (b : Bool)
  | number (value : Option Json)
  | string (text : Option String)
  | array (items : List Tree)
  | object (members : List (Option String × Tree))
  deriving Inhabited

/-- An open array or object, with what it holds so far in reverse. -/
inductive Frame where
  | array (before : List Tree)
  | object (before : List (Option String × Tree)) (key : Option String)

/-- What may come next. -/
inductive Awaiting where
  | value
  | firstItem
  | firstKey (before : List (Option String × Tree))
  | key (before : List (Option String × Tree))
  | colon (before : List (Option String × Tree)) (key : Option String)
  | separator
  | finish (t : Tree)

structure Reader where
  awaiting : Awaiting := .value
  stack : List Frame := []

namespace Reader

/-- Takes a finished tree into the innermost open array or object. -/
def complete (t : Tree) : List Frame → Reader
  | [] => ⟨.finish t, []⟩
  | .array before :: stack => ⟨.separator, .array (t :: before) :: stack⟩
  | .object before key :: stack => ⟨.separator, .object ((key, t) :: before) key :: stack⟩

def beginValue (stack : List Frame) : Token → Option Reader
  | .null => some (complete .null stack)
  | .bool b => some (complete (.bool b) stack)
  | .number v => some (complete (.number v) stack)
  | .string s => some (complete (.string s) stack)
  | .openArray => some ⟨.firstItem, .array [] :: stack⟩
  | .openObject => some ⟨.firstKey [], stack⟩
  | _ => none

def step (r : Reader) (t : Token) : Option Reader :=
  match r.awaiting, t with
  | .value, t => beginValue r.stack t
  | .firstItem, .closeArray =>
    match r.stack with
    | .array before :: stack => some (complete (.array before.reverse) stack)
    | _ => none
  | .firstItem, t => beginValue r.stack t
  | .firstKey before, .closeObject => some (complete (.object before.reverse) r.stack)
  | .firstKey before, .string k | .key before, .string k => some ⟨.colon before k, r.stack⟩
  | .colon before k, .colon => some ⟨.value, .object before k :: r.stack⟩
  | .separator, .comma =>
    match r.stack with
    | .array _ :: _ => some ⟨.value, r.stack⟩
    | .object before _ :: stack => some ⟨.key before, stack⟩
    | [] => none
  | .separator, .closeArray =>
    match r.stack with
    | .array before :: stack => some (complete (.array before.reverse) stack)
    | _ => none
  | .separator, .closeObject =>
    match r.stack with
    | .object before _ :: stack => some (complete (.object before.reverse) stack)
    | _ => none
  | _, _ => none

end Reader

namespace Tree

def ofTokens? (ts : List Token) : Option Tree := do
  match (← ts.foldlM Reader.step {}).awaiting with
  | .finish t => some t
  | _ => none

def ofText? (text : String) : Option Tree := (Token.ofText? text).bind ofTokens?

/-- How many arrays and objects may be open at once where they are read. -/
def depthLimit : Nat := 127

mutual

/-- The value of a tree in which so many arrays and objects may be open at once. -/
def json? (room : Nat) : Tree → Option Json
  | null => some .null
  | bool b => some (.bool b)
  | number v => v
  | string s => s.map .string
  | array items => if room = 0 then none else (jsonItems? (room - 1) items).map .array
  | object members => if room = 0 then none else (jsonMembers? (room - 1) members).map .object

def jsonItems? (room : Nat) : List Tree → Option (List Json)
  | [] => some []
  | t :: ts => do return (← json? room t) :: (← jsonItems? room ts)

def jsonMembers? (room : Nat) : List (Option String × Tree) → Option (List (String × Json))
  | [] => some []
  | (k, t) :: rest => do return (← k, ← json? room t) :: (← jsonMembers? room rest)

end

end Tree

/-- Reads any value from its text. -/
def ofText? (text : String) : Option Json := (Tree.ofText? text).bind (Tree.json? Tree.depthLimit)

end Arbiter.Json
