import Arbiter.Pattern.Bracket

namespace Arbiter.Pattern.Reader

open Unicode (CharSet)

/-- How deeply groups, repetitions, sequences, choices and brackets may nest. -/
def depthLimit : Nat := 250

/-- A part of a branch, and how deeply it nests. -/
structure Part where
  regex : Regex
  depth : Nat := 0
  /-- A setting of flags cannot be repeated. -/
  repeatable : Bool := true

structure Group where
  /-- The number under which the match is noted, if it is. -/
  number : Option Nat
  /-- The parts of the branch the group stands in, in reverse. -/
  parts : List Part
  /-- The branches before it, in reverse. -/
  branches : List Part
  flags : Flags

structure State where
  parts : List Part := []
  branches : List Part := []
  groups : List Group := []
  flags : Flags := {}
  /-- The names of groups so far. -/
  names : List (List Char) := []
  /-- How many groups are numbered so far. -/
  numbered : Nat := 0

def deepest (parts : List Part) : Nat := (parts.map (·.depth)).foldl max 0

/-- Several parts together nest one level deeper than each. -/
def together (join : List Regex → Regex) (parts : List Part) : Part :=
  ⟨join (parts.map (·.regex)), if parts.length < 2 then deepest parts else deepest parts + 1, true⟩

def branch (parts : List Part) : Part := together .concat parts.reverse

/-- The whole of the current group. -/
def alternatives (s : State) : Part :=
  match s.branches with
  | [] => branch s.parts
  | branches => together .choice (branch s.parts :: branches).reverse

def push (s : State) (r : Regex) : State := { s with parts := ⟨r, 0, true⟩ :: s.parts }

/-- A part one level deeper than what is in it. -/
def deeper? (r : Regex) (depth : Nat) : Option Part :=
  if depth < depthLimit then some ⟨r, depth + 1, true⟩ else none

/-- Replaces the part just read by its repetition. A question mark after it makes it lazy, which does not
matter here. -/
def repeat? (s : State) (least : Nat) (most : Option Nat) (cs : List Char) : Option (State × List Char) :=
  match s.parts with
  | [] => none
  | p :: parts => do
    let cs := match cs with
      | '?' :: cs => cs
      | cs => cs
    let q ← deeper? (.repeated p.regex least most) p.depth
    if p.repeatable then return ({ s with parts := q :: parts }, cs) else none

/-- Takes digits, which are given from the last on. -/
def digits (f : Flags) (before : List Char) : Nat → List Char → List Char × List Char
  | 0, cs => (before, cs)
  | k + 1, cs =>
    match cs with
    | [] => (before, [])
    | c :: rest => if c.isDigit then digits f (c :: before) k (f.skip rest) else (before, cs)

/-- A decimal count of 32 bits. Blanks may stand around it. -/
def count? (f : Flags) (cs : List Char) : Option (Nat × List Char) :=
  let cs := cs.dropWhile isBlank
  let (ds, rest) := digits f [] cs.length cs
  let n := ds.foldr (fun c n => n * 10 + (c.toNat - '0'.toNat)) 0
  if ds.isEmpty ∨ Nat.pow 2 32 ≤ n then none else some (n, rest.dropWhile isBlank)

/-- A counted repetition after its opening brace. -/
def counted? (s : State) (cs : List Char) : Option (State × List Char) := do
  let f := s.flags
  let (least, cs) ← count? f (f.skip cs)
  match cs with
  | '\x7d' :: cs => repeat? s least (some least) (f.skip cs)
  | ',' :: cs =>
    match f.skip cs with
    | '\x7d' :: cs => repeat? s least none (f.skip cs)
    | cs => do
      let (most, cs) ← count? f cs
      match cs with
      | '\x7d' :: cs => if least ≤ most then repeat? s least (some most) (f.skip cs) else none
      | _ => none
  | _ => none

/-- Reads flags up to a colon or a closing parenthesis. No flag may be given twice, and a dash must come
before one. -/
def flags? (f : Flags) (seen : List Char) (on : Bool) (dangling : Bool) :
    List Char → Option (Flags × Bool × Char × List Char)
  | [] => none
  | c :: cs =>
    if c = ':' ∨ c = ')' then if dangling then none else some (f, seen.isEmpty, c, cs)
    else if c ∈ seen then none
    else if c = '-' then flags? f (c :: seen) false true cs
    else
      match f.set c on with
      | none => none
      | some f => flags? f (c :: seen) on false cs

def isNameStart (c : Char) : Bool := c = '_' || Unicode.alphabetic.has c

def isNameChar (c : Char) : Bool :=
  c = '_' || c = '.' || c = '[' || c = ']' || Unicode.alphabetic.has c || Unicode.number.has c

def groupName? (cs : List Char) : Option (List Char × List Char) :=
  let name := cs.takeWhile (· ≠ '>')
  match name, cs.dropWhile (· ≠ '>') with
  | c :: rest, _ :: after => if isNameStart c && rest.all isNameChar then some (name, after) else none
  | _, _ => none

/-- Opens a group in which these flags hold. -/
def openGroup (s : State) (number : Option Nat) (f : Flags) : State :=
  { s with
    parts := []
    branches := []
    groups := ⟨number, s.parts, s.branches, s.flags⟩ :: s.groups
    flags := f }

def numberedGroup (s : State) : State :=
  openGroup { s with numbered := s.numbered + 1 } (some (s.numbered + 1)) s.flags

def namedGroup? (s : State) (cs : List Char) : Option (State × List Char) := do
  let (name, cs) ← groupName? cs
  if name ∈ s.names then none else return (numberedGroup { s with names := name :: s.names }, cs)

/-- Reads what follows an opening parenthesis. Expressions that look around are none. -/
def group? (s : State) (cs : List Char) : Option (State × List Char) :=
  match s.flags.skip cs with
  | '?' :: '=' :: _ | '?' :: '!' :: _ | '?' :: '<' :: '=' :: _ | '?' :: '<' :: '!' :: _ => none
  | '?' :: 'P' :: '<' :: cs => namedGroup? s cs
  | '?' :: '<' :: cs => namedGroup? s cs
  | '?' :: cs => do
    let (f, none?, c, cs) ← flags? s.flags [] true false cs
    if c = ':' then return (openGroup s none f, cs)
    else if none? then none
    else return ({ s with parts := ⟨.empty, 0, false⟩ :: s.parts, flags := f }, cs)
  | cs => some (numberedGroup s, cs)

def closeGroup? (s : State) : Option State :=
  match s.groups with
  | [] => none
  | g :: groups => do
    let p := alternatives s
    let r := match g.number with
      | none => p.regex
      | some n => .group n p.regex
    return {
      s with
      parts := (← deeper? r p.depth) :: g.parts
      branches := g.branches
      groups := groups
      flags := g.flags }

def dot? (f : Flags) : Option Regex :=
  if !f.unicode then none
  else if f.dotAll then some (.set .all)
  else if f.carriageReturn then some (.set (CharSet.compl (.union (.single '\n') (.single '\r'))))
  else some (.set (CharSet.compl (.single '\n')))

def caret (f : Flags) : Look :=
  if f.multiLine then if f.carriageReturn then .startLineCR else .startLine else .startText

def dollar (f : Flags) : Look :=
  if f.multiLine then if f.carriageReturn then .endLineCR else .endLine else .endText

def atom (f : Flags) : Atom → Regex
  | .char c => .ofSet (f.fold (.single c))
  | .set s => .ofSet s
  | .look l => .look l

/-- Reads the next part. -/
def step? (s : State) : List Char → Option (State × List Char)
  | [] => none
  | c :: cs =>
    let f := s.flags
    if c = '(' then group? s cs
    else if c = ')' then (closeGroup? s).map (·, cs)
    else if c = '|' then some ({ s with parts := [], branches := branch s.parts :: s.branches }, cs)
    else if c = '[' then do
      let (n, cs) ← Bracket.read? f cs
      return ({ s with parts := ⟨.ofSet n.set, n.depth, true⟩ :: s.parts }, cs)
    else if c = '?' then repeat? s 0 (some 1) cs
    else if c = '*' then repeat? s 0 none cs
    else if c = '+' then repeat? s 1 none cs
    else if c = '\x7b' then counted? s cs
    else if c = '\\' then (Escape.read? f cs).map fun (a, cs) => (push s (atom f a), cs)
    else if c = '.' then (dot? f).map fun r => (push s r, cs)
    else if c = '^' then some (push s (.look (caret f)), cs)
    else if c = '$' then some (push s (.look (dollar f)), cs)
    else some (push s (atom f (.char c)), cs)

def readOn? : Nat → State → List Char → Option Regex
  | 0, _, _ => none
  | k + 1, s, cs =>
    match s.flags.skip cs with
    | [] =>
      let p := alternatives s
      if s.groups.isEmpty ∧ p.depth ≤ depthLimit then some p.regex else none
    | cs => do
      let (s, cs) ← step? s cs
      readOn? k s cs

def read? (text : String) : Option Regex :=
  let cs := text.toList
  readOn? (cs.length + 1) {} cs

end Arbiter.Pattern.Reader
