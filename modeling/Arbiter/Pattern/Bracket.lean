import Arbiter.Pattern.Escape

/-! Bracketed sets of characters.

The reader keeps a stack of open brackets, and each step takes at least one character, so that the length of
the text bounds the number of steps. -/

namespace Arbiter.Pattern.Bracket

open Unicode (CharSet)

inductive Op where
  | inter
  | diff
  | symmDiff

def Op.apply : Op → CharSet → CharSet → CharSet
  | inter => CharSet.inter
  | diff => CharSet.diff
  | symmDiff => CharSet.symmDiff

/-- A set and how deeply it nests. -/
structure Nested where
  set : CharSet
  depth : Nat

/-- Items side by side. -/
structure Items where
  set : CharSet := .nothing
  count : Nat := 0
  /-- The depth of the deepest item. -/
  depth : Nat := 0

namespace Items

def add (i : Items) (s : CharSet) (depth : Nat) : Items := ⟨i.set.union s, i.count + 1, max i.depth depth⟩

/-- Several items together nest one level deeper than each. -/
def toNested (i : Items) : Nested := ⟨i.set, if i.count < 2 then i.depth else i.depth + 1⟩

end Items

inductive Frame where
  /-- An open bracket, and the items it stands among. -/
  | bracket (negated : Bool) (outer : Items)
  /-- An operation that waits for its right side. -/
  | op (o : Op) (left : Nested)

structure State where
  /-- The items since the last bracket or operation. -/
  items : Items
  stack : List Frame

/-- Applies the operation that waits for the set, if one does. -/
def applyOp (f : Flags) (s : Nested) (stack : List Frame) : Nested × List Frame :=
  match stack with
  | .op o left :: stack => (⟨o.apply (f.fold left.set) (f.fold s.set), max left.depth s.depth + 1⟩, stack)
  | _ => (s, stack)

/-- Dashes at the start of a bracket. -/
def dashes (f : Flags) (items : Items) : Nat → List Char → Items × List Char
  | 0, cs => (items, cs)
  | k + 1, cs =>
    match cs with
    | '-' :: cs => dashes f (items.add (.single '-') 0) k (f.skip cs)
    | cs => (items, cs)

/-- Opens a bracket. Dashes, or else a closing bracket, right after it are items. -/
def open? (f : Flags) (outer : Items) (stack : List Frame) (cs : List Char) : Option (State × List Char) :=
  let (negated, cs) := match f.skip cs with
    | '^' :: cs => (true, f.skip cs)
    | cs => (false, cs)
  let stack := .bracket negated outer :: stack
  let (items, cs) := dashes f {} cs.length cs
  match cs with
  | [] => none
  | ']' :: rest =>
    if items.count = 0 then some (⟨items.add (.single ']') 0, stack⟩, f.skip rest) else some (⟨items, stack⟩, cs)
  | cs => some (⟨items, stack⟩, cs)

/-- One end of a range, or an item that is none. -/
def item? (f : Flags) : List Char → Option (Atom × List Char)
  | [] => none
  | '\\' :: cs => Escape.read? f cs
  | c :: cs => some (.char c, cs)

def atomSet? (f : Flags) : Atom → Option CharSet
  | .char c => some (.single c) |>.filter f.allows
  | .set s => some s
  | .look _ => none

/-- The next character that is no blank. After a sign that opens a comment, it is taken from the comment. -/
def peek? (f : Flags) (cs : List Char) : Option Char :=
  if f.spaced then
    match cs.dropWhile isBlank with
    | '#' :: cs => (cs.dropWhile isBlank).head?
    | cs => cs.head?
  else cs.head?

/-- A character, a class, or a range between two characters. -/
def range? (f : Flags) (cs : List Char) : Option (CharSet × List Char) := do
  let (first, cs) ← item? f cs
  match f.skip cs with
  | [] => none
  | '-' :: rest =>
    if peek? f rest = some ']' ∨ peek? f rest = some '-' then return (← atomSet? f first, '-' :: rest)
    let (last, rest) ← item? f (f.skip rest)
    match first, last with
    | .char a, .char b =>
      let s := CharSet.interval a b
      if a ≤ b ∧ f.allows s then return (s, rest) else none
    | _, _ => none
  | cs => return (← atomSet? f first, cs)

/-- A named class such as `[:alpha:]`, after its opening bracket. It is `some none` when there is one that
must not stand here. -/
def named? (f : Flags) (cs : List Char) : Option (Option CharSet × List Char) :=
  match cs with
  | ':' :: cs =>
    let (negated, cs) := match cs with
      | '^' :: cs => (true, cs)
      | cs => (false, cs)
    match cs.dropWhile (· ≠ ':') with
    | ':' :: ']' :: rest =>
      (CharSet.ascii? (String.ofList (cs.takeWhile (· ≠ ':')))).map fun s =>
        (some (Escape.negateIf negated (f.fold s)) |>.filter f.allows, rest)
    | _ => none
  | _ => none

/-- Closes a bracket. Cases are folded before the set is negated. -/
def close? (f : Flags) (s : State) : Option (Nested × Items × List Frame) :=
  let (n, stack) := applyOp f s.items.toNested s.stack
  match stack with
  | .bracket negated outer :: stack =>
    let set := Escape.negateIf negated (f.fold n.set)
    if f.allows set then some (⟨set, n.depth + 1⟩, outer, stack) else none
  | _ => none

def withOp (f : Flags) (o : Op) (s : State) : State :=
  let (left, stack) := applyOp f s.items.toNested s.stack
  ⟨{}, .op o left :: stack⟩

/-- Reads a bracketed set after its first bracket is open. -/
def readOn? (f : Flags) : Nat → State → List Char → Option (Nested × List Char)
  | 0, _, _ => none
  | k + 1, s, cs =>
    match f.skip cs with
    | [] => none
    | '[' :: rest =>
      match named? f rest with
      | some (t, rest) => do readOn? f k { s with items := s.items.add (← t) 0 } rest
      | none => do
        let (s, rest) ← open? f s.items s.stack rest
        readOn? f k s rest
    | ']' :: rest => do
      let (n, outer, stack) ← close? f s
      if stack.isEmpty then return (n, rest) else readOn? f k ⟨outer.add n.set n.depth, stack⟩ rest
    | '&' :: '&' :: rest => readOn? f k (withOp f .inter s) rest
    | '-' :: '-' :: rest => readOn? f k (withOp f .diff s) rest
    | '~' :: '~' :: rest => readOn? f k (withOp f .symmDiff s) rest
    | cs => do
      let (t, rest) ← range? f cs
      readOn? f k { s with items := s.items.add t 0 } rest

/-- Reads a bracketed set after its opening bracket. -/
def read? (f : Flags) (cs : List Char) : Option (Nested × List Char) := do
  let (s, cs) ← open? f {} [] cs
  readOn? f (cs.length + 1) s cs

end Arbiter.Pattern.Bracket
