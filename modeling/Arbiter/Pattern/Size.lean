import Std.Data.HashMap
import Arbiter.Pattern.Regex
import Arbiter.Unicode.Utf8

/-! How much memory the automata of an expression take: one that reads texts forwards and notes the places
of groups, and one that reads them backwards. Characters are read byte by byte, and states that read the same
rest of a character are shared as far as a table of bounded size remembers them. -/

namespace Arbiter.Pattern.Size

open Unicode (CharSet)

/-- The bytes that each automaton may take. -/
def limit : Nat := 10485760

/-- The states of an automaton, and the bytes that they take beyond the share that each has. -/
structure Usage where
  states : Nat := 0
  extra : Nat := 0

def stateBytes : Nat := 32

/-- The share of a range of bytes in a state that has several. -/
def edgeBytes : Nat := 8

/-- The share of a branch in a state that has several. -/
def branchBytes : Nat := 4

/-- Adds some states, and bytes that they take beyond their share. -/
def add (states extra : Nat) (u : Usage) : Option Usage :=
  let u : Usage := ⟨u.states + states, u.extra + extra⟩
  if stateBytes * u.states + u.extra ≤ limit then some u else none

/-- Adds the states of an expression, and tells whether the last of them branches: then what follows is one
more branch of it. -/
abbrev Build := Usage → Option (Bool × Usage)

def link (forks : Bool) (u : Usage) : Option Usage := if forks then add 0 branchBytes u else some u

def fnvPrime : UInt64 := 1099511628211

def mix (h : UInt64) (n : Nat) : UInt64 := (h ^^^ n.toUInt64) * fnvPrime

def fnv (ns : List Nat) : UInt64 := ns.foldl mix 14695981039346656037

/-- Ranges of bytes, each with the state that it leads to. -/
abbrev Edges := List ((Nat × Nat) × Nat)

/-- The states that a table remembers, by the slot that their edges go to. A new one takes the slot over. -/
abbrev Shared := Std.HashMap Nat (Edges × Nat)

structure Builder where
  usage : Usage
  shared : Shared := {}

/-- Finds the state with these edges, or adds it. -/
def Builder.state (slots : Nat) (bytes : Nat) (edges : Edges) (b : Builder) : Option (Nat × Builder) :=
  let slot := (fnv (edges.flatMap fun e => [e.1.1, e.1.2, e.2]) % slots.toUInt64).toNat
  let found := (b.shared[slot]?).bind fun s => if s.1 = edges then some s.2 else none
  match found with
  | some n => some (n, b)
  | none =>
    (add 1 bytes b.usage).map fun u => (b.usage.states, ⟨u, b.shared.insert slot (edges, b.usage.states)⟩)

/-- A state whose last edge does not lead anywhere yet. -/
structure Draft where
  edges : Edges := []
  last : Option (Nat × Nat) := none

/-- The edges once the last leads to a state. -/
def Draft.settle (d : Draft) (target : Nat) : Edges :=
  match d.last with
  | none => d.edges
  | some r => d.edges ++ [(r, target)]

def Builder.sparse (edges : Edges) (b : Builder) : Option (Nat × Builder) :=
  b.state 10000 (edgeBytes * edges.length) edges

/-- Adds the states of drafts that lead from one to the next and at last to a state. -/
def Builder.close (target : Nat) : List Draft → Builder → Option (Nat × Builder)
  | [], b => some (target, b)
  | d :: ds, b => do
    let (n, b) ← b.close target ds
    b.sparse (d.settle n)

/-- The drafts of a sequence of byte ranges after those that it shares with the one before it. -/
def Builder.sequence (target : Nat) : List (Nat × Nat) → List Draft → Builder → Option (List Draft × Builder)
  | [], ds, b => some (ds, b)
  | r :: rs, [], b => some ((r :: rs).map fun r => ⟨[], some r⟩, b)
  | r :: rs, d :: ds, b =>
    if d.last = some r then (b.sequence target rs ds).map fun (ds, b) => (d :: ds, b)
    else do
      let (n, b) ← b.close target ds
      return (⟨d.settle n, some r⟩ :: rs.map fun r => ⟨[], some r⟩, b)

/-- Reads a character forwards: sequences come in order, so that those with the same start follow each
other. -/
def forwards (seqs : List (List (Nat × Nat))) : Build := fun u => do
  let target := u.states
  let u ← add 1 0 u
  let start : List Draft × Builder := ([⟨[], none⟩], ⟨u, {}⟩)
  let (ds, b) ← seqs.foldlM (fun (ds, b) s => Builder.sequence target s ds b) start
  let (_, b) ← b.close target ds
  return (false, b.usage)

/-- Reads the bytes of a sequence backwards, the first byte last. -/
def Builder.backwards (target : Nat) : List (Nat × Nat) → Builder → Option Builder
  | [], b => (add 0 branchBytes b.usage).map fun u => { b with usage := u }
  | r :: rs, b => do
    let (n, b) ← b.state 1000 0 [(r, target)]
    b.backwards n rs

def backwards (seqs : List (List (Nat × Nat))) : Build := fun u => do
  let target := u.states + 1
  let u ← add 2 0 u
  let b ← seqs.foldlM (fun b s => b.backwards target s) (⟨u, {}⟩ : Builder)
  return (false, b.usage)

/-- Sets of the first 128 characters need one state, whichever way texts are read. -/
def set (forward : Bool) (s : CharSet) : Build :=
  if s.isAscii then fun u => (add 2 (edgeBytes * s.ranges.length) u).map (false, ·)
  else
    let seqs := s.ranges.flatMap Unicode.Utf8.sequences
    if forward then forwards seqs else backwards seqs

def bytes (cs : List Char) : List Nat := cs.flatMap fun c => Unicode.Utf8.encode c.toNat

/-- Sorts texts by their first bytes, which are dropped. -/
def byFirst (texts : List (List Nat)) : List (Nat × List (List Nat)) :=
  texts.foldl (fun groups t =>
    match t with
    | [] => groups
    | b :: rest =>
      if groups.any (·.1 = b) then groups.map fun g => if g.1 = b then (b, g.2 ++ [rest]) else g
      else groups ++ [(b, [rest])]) []

/-- The runs of texts between empty ones. -/
def runs (run : List (List Nat)) : List (List Nat) → List (List (List Nat))
  | [] => [run.reverse]
  | [] :: ts => run.reverse :: runs [] ts
  | t :: ts => runs (t :: run) ts

/-- The states and further bytes of a tree of texts, of which none is longer than `k`. A node has one
branch for each run of texts between two that end there, and one for each that ends. -/
def tree : Nat → List (List Nat) → Nat × Nat
  | 0, _ => (0, 0)
  | k + 1, texts =>
    let texts := if (texts.head?.getD [0]).isEmpty then [] :: texts.dropWhile (·.isEmpty) else texts
    let groups := (runs [] texts).map byFirst
    let parted := groups.filter (!·.isEmpty)
    let wide := parted.filter (1 < ·.length)
    let children := (parted.flatten.map (·.2)).filter fun ts => ts.any (!·.isEmpty)
    (children.map (tree k)).foldl (fun x y => (x.1 + y.1, x.2 + y.2))
      (1 + parted.length,
        branchBytes * (parted.length + groups.length - 1) + edgeBytes * (wide.map (·.length)).sum)

def text? : Regex → Option (List Nat)
  | .text cs => some (bytes cs)
  | _ => none

def choiceOfTexts (forward : Bool) (texts : List (List Nat)) : Build := fun u =>
  let texts := if forward then texts else texts.map List.reverse
  let (states, extra) := tree ((texts.map (·.length)).foldl max 0) texts
  (add (states + 1) extra u).map (false, ·)

/-- So many copies, one after the other. -/
def copies (one : Build) : Nat → Build
  | 0, u => (add 1 0 u).map (false, ·)
  | 1, u => one u
  | n + 2, u =>
    match one u with
    | none => none
    | some (forks, u) =>
      match link forks u with
      | none => none
      | some u => copies one (n + 1) u

/-- So many copies, each of which may end the match. -/
def options (one : Build) : Nat → Usage → Option Usage
  | 0, u => some u
  | n + 1, u =>
    match add 1 (2 * branchBytes) u with
    | none => none
    | some u =>
      match one u with
      | none => none
      | some (forks, u) =>
        match link forks u with
        | none => none
        | some u => options one n u

/-- A part that may be left out or repeated without end. One that can be empty takes two states for this,
lest a round without a character be taken for the end. -/
def repeatedOften (long : Bool) (one : Build) (least : Nat) : Build := fun u => do
  if least = 0 then
    if long then
      let u ← add 1 branchBytes u
      let (forks, u) ← one u
      return (true, ← link forks u)
    else
      let (forks, u) ← one u
      let u ← link forks u
      return (false, ← add 3 (4 * branchBytes) u)
  else
    let (forks, u) ← copies one least u
    let u ← link forks u
    return (true, ← add 1 branchBytes u)

def repeatedAtMost (one : Build) (least most : Nat) : Build := fun u => do
  if least = most then copies one least u
  else if least = 0 ∧ most = 1 then
    let u ← add 1 (2 * branchBytes) u
    let (forks, u) ← one u
    return (false, ← link forks (← add 1 0 u))
  else
    let (forks, u) ← copies one least u
    let u ← link forks (← add 1 0 u)
    return (false, ← options one (most - least) u)

mutual

def build (forward : Bool) : Regex → Build
  | .empty | .look _ => fun u => (add 1 0 u).map (false, ·)
  | .text cs => fun u => (add (bytes cs).length 0 u).map (false, ·)
  | .set s => set forward s
  | .group _ a => fun u => do
    if forward then
      let (forks, u) ← build forward a (← add 1 0 u)
      return (false, ← link forks (← add 1 0 u))
    else build forward a u
  | .seq as => buildAll forward as
  | .alt as => fun u =>
    match as.mapM text? with
    | some texts => choiceOfTexts forward texts u
    | none => do
      let (n, u) ← buildEach forward as u
      return (false, ← add 2 (n * branchBytes) u)
  | .times a least most =>
    let one := build forward a
    match most with
    | none => repeatedOften ((a.width?.getD 0) ≠ 0) one least
    | some most => repeatedAtMost one least most

/-- The parts of a sequence, the last one first if texts are read backwards. -/
def buildAll (forward : Bool) : List Regex → Build
  | [], u => some (false, u)
  | [a], u => build forward a u
  | a :: as, u =>
    if forward then do
      let (forks, u) ← build forward a u
      buildAll forward as (← link forks u)
    else do
      let (forks, u) ← buildAll forward as u
      build forward a (← link forks u)

/-- Branches side by side, and how many there are. -/
def buildEach (forward : Bool) : List Regex → Usage → Option (Nat × Usage)
  | [], u => some (0, u)
  | a :: as, u => do
    let (forks, u) ← build forward a u
    let (n, u) ← buildEach forward as (← link forks u)
    return (n + 1, u)

end

/-- The part that skips what stands before a match, unless the match must start where the text does. -/
def skipping (anchored : Bool) (u : Usage) : Option Usage :=
  if anchored then add 1 0 u else add 3 (2 * branchBytes + edgeBytes) u

/-- Whether both automata of an expression are small enough. Forwards, the whole is a group too. -/
def fits (a : Regex) : Bool :=
  let size (forward : Bool) : Option Usage := do
    let edge := if forward then Look.startText else Look.endText
    let u ← skipping (a.isBoundBy edge !forward) {}
    let whole := if forward then Regex.group 0 a else a
    let (forks, u) ← build forward whole u
    link forks (← add 1 0 u)
  (size true).isSome && (size false).isSome

end Arbiter.Pattern.Size
