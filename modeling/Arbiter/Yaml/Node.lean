import Arbiter.Yaml.Token

/-! The tree of a YAML text. In a document an alias stands under a number, and only where it is followed does
it become the node that it names; in settings it is a copy of that node. -/

namespace Arbiter.Yaml

inductive Node where
  | scalar (tag : Option String) (isPlain : Bool) (text : String)
  | sequence (tag : Option String) (items : List Node)
  | mapping (tag : Option String) (pairs : List (Node × Node))
  | aliasOf (number : Nat)
  deriving Repr, Inhabited

namespace Node

/-- What stands where a node is left out. -/
def absent : Dialect → Node
  | .document => scalar none true ""
  | .settings => scalar none true "~"

/-- What an alias stands for inside the node that it names. -/
def unfinished : Node := scalar (some (Tag.standard "null")) true ""

mutual

/-- How many nodes there are, a collection counting twice for its start and end. -/
def weight : Node → Nat
  | scalar _ _ _ | aliasOf _ => 1
  | sequence _ items => 2 + weightItems items
  | mapping _ pairs => 2 + weightPairs pairs

def weightItems : List Node → Nat
  | [] => 0
  | n :: ns => weight n + weightItems ns

def weightPairs : List (Node × Node) → Nat
  | [] => 0
  | (k, v) :: rest => weight k + weight v + weightPairs rest

end

end Node

/-- The node of a text and the nodes that are named in it. -/
structure Graph where
  root : Node
  /-- Which of the named nodes, counted by their starts, an alias of some number stands for. -/
  targets : List (Nat × Nat)
  /-- The named nodes, each with its count. -/
  named : List (Nat × Node)

namespace Graph

def target? (g : Graph) (number : Nat) : Option Node := do
  let (_, count) ← g.targets.find? (·.1 = number)
  return (← g.named.find? (·.1 = count)).2

/-- How many aliases may be followed. -/
def aliasLimit (g : Graph) : Nat := 100 * g.root.weight

/-- How the tree is read: what is left of the tokens, and what is named so far. -/
structure Reading where
  dialect : Dialect
  handles : List (String × String)
  tokens : List Token
  /-- The number under which an alias of a name stands. -/
  numbers : List (String × Nat) := []
  /-- The newest first. -/
  targets : List (Nat × Nat) := []
  named : List (Nat × Node) := []

namespace Reading

def drop (r : Reading) : Reading := { r with tokens := r.tokens.drop 1 }

def isAt (r : Reading) (ts : List Token) : Bool := r.tokens.head?.any (· ∈ ts)

/-- Notes that a node starts under a name. Its number tells how many names there were in a document, so that
a name given again may share one, and in settings how many nodes were named. -/
def begin (r : Reading) (anchor : Option String) : Reading :=
  match anchor with
  | some name =>
    let number := match r.dialect with
      | .document => r.numbers.length
      | .settings => r.targets.length
    { r with
      numbers := (name, number) :: r.numbers.filter (·.1 ≠ name)
      targets := (number, r.targets.length) :: r.targets }
  | none => r

/-- Notes a node whose start was the one of this count. -/
def note (r : Reading) (anchor : Option String) (count : Nat) (n : Node) : Reading :=
  if anchor.isSome then { r with named := (count, n) :: r.named } else r

/-- The node of an alias. -/
def alias? (r : Reading) (name : String) : Option Node := do
  let (_, number) ← r.numbers.find? (·.1 = name)
  match r.dialect with
  | .document => return .aliasOf number
  | .settings =>
    let target? := (r.targets.find? (·.1 = number)).bind fun t => r.named.find? (·.1 = t.2)
    return (target?.map (·.2)).getD .unfinished

/-- What a tag stands for; `none` where it is not declared. -/
def tagOf? (r : Reading) (tag : Option Tag) : Option (Option String) :=
  match tag with
  | none => some none
  | some t => (t.resolve? r.dialect r.handles).map some

end Reading

/-- An anchor and a tag, in either order. -/
def properties : List Token → Option String × Option Tag × List Token
  | .anchor a :: .tag t :: ts | .tag t :: .anchor a :: ts => (some a, some t, ts)
  | .anchor a :: ts => (some a, none, ts)
  | .tag t :: ts => (none, some t, ts)
  | ts => (none, none, ts)

/-- The tag of a scalar. A mark alone is none in documents. -/
def scalarTag (d : Dialect) (tag : Option String) : Option String :=
  if d = .document then tag.filter (· ≠ "!") else tag

mutual

/-- Reads a node. Block collections can stand only in a block, and a sequence that is not indented only
as a key or value there. -/
def read? : Nat → (inBlock inMapping : Bool) → Reading → Option (Node × Reading)
  | 0, _, _, _ => none
  | k + 1, inBlock, inMapping, r =>
    match r.tokens with
    | .alias name :: _ => (r.alias? name).map (·, r.drop)
    | _ => do
      let (anchor, tag, ts) := properties r.tokens
      let isMarked := anchor.isSome || tag.isSome
      let tag ← r.tagOf? tag
      let (n, after) ← content? k inBlock inMapping isMarked tag ({ r with tokens := ts }.begin anchor)
      return (n, after.note anchor r.targets.length n)

/-- Reads a node after its anchor and tag, which alone make an empty one. -/
def content? : Nat → (inBlock inMapping isMarked : Bool) → (tag : Option String) → Reading →
    Option (Node × Reading)
  | 0, _, _, _, _, _ => none
  | k + 1, inBlock, inMapping, isMarked, tag, r =>
    match r.tokens, inBlock, inMapping with
    | .scalar isPlain text :: _, _, _ => some (.scalar (scalarTag r.dialect tag) isPlain text, r.drop)
    | .flowSequenceStart :: _, _, _ => do
      let (items, r) ← flowItems? k true r.drop
      return (.sequence tag items, r.drop)
    | .flowMappingStart :: _, _, _ => do
      let (pairs, r) ← flowPairs? k true r.drop
      return (.mapping tag pairs, r.drop)
    | .blockSequenceStart :: _, true, _ => do
      let (items, r) ← blockItems? k r.drop
      return (.sequence tag items, r.drop)
    | .blockMappingStart :: _, true, _ => do
      let (pairs, r) ← blockPairs? k r.drop
      return (.mapping tag pairs, r.drop)
    | .blockEntry :: _, _, true => do
      let (items, r) ← looseItems? k r
      return (.sequence tag items, r)
    | _, _, _ => if isMarked then some (.scalar tag true "", r) else none

/-- Reads a node, an absent one if one of these tokens comes at once. -/
def readBefore? : Nat → List Token → (inBlock inMapping : Bool) → Reading → Option (Node × Reading)
  | 0, _, _, _, _ => none
  | k + 1, stops, inBlock, inMapping, r =>
    if r.isAt stops then some (.absent r.dialect, r) else read? k inBlock inMapping r

/-- Reads the value of a key, which may be missing. -/
def readValue? : Nat → List Token → (inBlock : Bool) → Reading → Option (Node × Reading)
  | 0, _, _, _ => none
  | k + 1, stops, inBlock, r =>
    if r.isAt [.value] then readBefore? k stops inBlock inBlock r.drop else some (.absent r.dialect, r)

def blockItems? : Nat → Reading → Option (List Node × Reading)
  | 0, _ => none
  | k + 1, r =>
    if r.isAt [.blockEntry] then do
      let (n, r) ← readBefore? k [.blockEntry, .blockEnd] true false r.drop
      let (ns, r) ← blockItems? k r
      return (n :: ns, r)
    else if r.isAt [.blockEnd] then some ([], r)
    else none

/-- The items of a sequence that is not indented. -/
def looseItems? : Nat → Reading → Option (List Node × Reading)
  | 0, _ => none
  | k + 1, r =>
    if r.isAt [.blockEntry] then do
      let (n, r) ← readBefore? k [.blockEntry, .key, .value, .blockEnd] true false r.drop
      let (ns, r) ← looseItems? k r
      return (n :: ns, r)
    else some ([], r)

/-- Pairs of keys and values. In settings a key may be missing. -/
def blockPairs? : Nat → Reading → Option (List (Node × Node) × Reading)
  | 0, _ => none
  | k + 1, r =>
    if r.isAt [.key] ∨ (r.dialect = .settings ∧ r.isAt [.value]) then do
      let stops := [.key, .value, .blockEnd]
      let (key, r) ← if r.isAt [.value] then some (.absent r.dialect, r) else readBefore? k stops true true r.drop
      let (value, r) ← readValue? k stops true r
      let (rest, r) ← blockPairs? k r
      return ((key, value) :: rest, r)
    else if r.isAt [.blockEnd] then some ([], r)
    else none

/-- Items between commas. A key among them makes a mapping of one pair; when the key is empty, the token
after it is lost. -/
def flowItems? : Nat → (first : Bool) → Reading → Option (List Node × Reading)
  | 0, _, _ => none
  | k + 1, first, r =>
    if r.isAt [.flowSequenceEnd] then some ([], r)
    else if !first ∧ !r.isAt [.flowEntry] then none
    else do
      let r := if first then r else r.drop
      if r.isAt [.key] then
        let r := r.drop
        let (key, r) ←
          if r.isAt [.value, .flowEntry, .flowSequenceEnd] then some (.absent r.dialect, r.drop)
          else read? k false false r
        let (value, r) ← readValue? k [.flowEntry, .flowSequenceEnd] false r
        let (ns, r) ← flowItems? k false r
        return (.mapping none [(key, value)] :: ns, r)
      else if r.isAt [.flowSequenceEnd] then return ([], r)
      else
        let (n, r) ← read? k false false r
        let (ns, r) ← flowItems? k false r
        return (n :: ns, r)

/-- Pairs between commas. A node without a colon is a key of an absent value, and in settings a key may be
missing. -/
def flowPairs? : Nat → (first : Bool) → Reading → Option (List (Node × Node) × Reading)
  | 0, _, _ => none
  | k + 1, first, r =>
    if r.isAt [.flowMappingEnd] then some ([], r)
    else if !first ∧ !r.isAt [.flowEntry] then none
    else do
      let r := if first then r else r.drop
      if r.isAt [.key] ∨ (r.dialect = .settings ∧ r.isAt [.value]) then
        let (key, r) ←
          if r.isAt [.value] then some (.absent r.dialect, r)
          else readBefore? k [.value, .flowEntry, .flowMappingEnd] false false r.drop
        let (value, r) ← readValue? k [.flowEntry, .flowMappingEnd] false r
        let (rest, r) ← flowPairs? k false r
        return ((key, value) :: rest, r)
      else if r.isAt [.flowMappingEnd] then return ([], r)
      else
        let (key, r) ← read? k false false r
        let (rest, r) ← flowPairs? k false r
        return ((key, .absent r.dialect) :: rest, r)

end

/-- The document of a text, which must be the only one; `none` inside where there is none. -/
def ofTokens? (d : Dialect) (ts : List Token) : Option (Option Graph) := do
  let fuel := 4 * ts.length + 4
  let start (handles : List (String × String)) (ts : List Token) : Reading := { dialect := d, handles, tokens := ts }
  let finish (n : Node) (r : Reading) : Option (Option Graph) :=
    if r.tokens.all (· = .documentEnd) then some (some ⟨n, r.targets, r.named⟩) else none
  let directives := (ts.takeWhile (·.directive?.isSome)).filterMap (·.directive?)
  match ts, ts.drop directives.length with
  | [], _ => some none
  | _, .documentStart :: rest =>
    let r := start (← Directive.handles? d directives) rest
    if r.tokens.isEmpty ∨ r.isAt [.documentEnd] then finish (.absent d) r
    else
      let (n, r) ← read? fuel true false r
      finish n r
  | _, _ =>
    let (n, r) ← read? fuel true false (start [] ts)
    finish n r

def ofText? (d : Dialect) (text : String) : Option (Option Graph) := (Token.ofText? d text).bind (ofTokens? d)

end Graph

end Arbiter.Yaml
