import Arbiter.Number.Numeral
import Arbiter.Yaml.Cursor

namespace Arbiter.Yaml

/-- What an end of line counts as in a scalar. -/
def breakText (c : Char) : Char := if c = '\r' then '\n' else c

/-- What stands between two words of a scalar. -/
structure Gap where
  /-- The blanks before the first break, in reverse. -/
  blanks : List Char := []
  broken : Bool := false
  firstBreak : Option Char := none
  /-- The breaks after the first, in reverse. -/
  breaks : List Char := []

namespace Gap

/-- What a gap counts as between two words. -/
def text (g : Gap) : List Char :=
  if g.broken then
    match g.firstBreak with
    | none => g.breaks.reverse
    | some b =>
      if b = '\n' then if g.breaks.isEmpty then [' '] else g.breaks.reverse else b :: g.breaks.reverse
  else g.blanks.reverse

def addBlank (g : Gap) (c : Char) : Gap := if g.broken then g else { g with blanks := c :: g.blanks }

def addBreak (g : Gap) (c : Char) : Gap :=
  if g.broken then { g with breaks := c :: g.breaks }
  else { g with blanks := [], broken := true, firstBreak := some c }

/-- Reads on to the next word. A tab must not stand where a plain scalar is still to be indented. -/
def read? (indent : Option Int) : Nat → Gap → Cursor → Option (Gap × Cursor)
  | 0, _, _ => none
  | k + 1, g, c =>
    match c.peek with
    | none => some (g, c)
    | some x =>
      if isBlank x then
        if x = '\t' ∧ g.broken ∧ indent.any (fun i => decide ((c.column : Int) < i)) then none
        else read? indent k (g.addBlank x) c.next
      else if c.dialect.isBreak x then read? indent k (g.addBreak (breakText x)) c.next
      else some (g, c)

end Gap

namespace Scalar

def flowMarks : List Char := [',', '[', ']', '\x7b', '\x7d']

/-- Reads a word of a plain scalar, in reverse onto what is there. A colon right before a mark of a flow
collection ends it in settings and is refused in documents. -/
def plainWord? (flow : Bool) : Nat → List Char → Cursor → Option (List Char × Cursor)
  | 0, _, _ => none
  | k + 1, acc, c =>
    match c.peek with
    | none => some (acc, c)
    | some x =>
      if c.endsAt 0 then some (acc, c)
      else if x = ':' ∧ flow ∧ c.dialect = .document ∧ c.hasAt 1 ('?' :: flowMarks) then none
      else if x = ':' ∧ (c.endsAt 1 ∨ (flow ∧ c.hasAt 1 flowMarks)) then some (acc, c)
      else if flow ∧ x ∈ flowMarks then some (acc, c)
      else plainWord? flow k (x :: acc) c.next

/-- Reads a plain scalar; tells too whether it ends past a break. A blank before its first word belongs to
it. -/
def plain? (flow : Bool) (indent : Int) : Nat → List Char → Gap → Cursor →
    Option (List Char × Bool × Cursor)
  | 0, _, _, _ => none
  | k + 1, acc, g, c =>
    if c.isDocumentMark || c.isAt '#' then some (acc.reverse, g.broken, c)
    else do
      let (word, after) ← plainWord? flow c.fuel [] c
      let goesOn := after.blankHere || after.breakHere
      if word.isEmpty ∧ !goesOn then return (acc.reverse, g.broken, c)
      let acc := word ++ g.text.reverse ++ acc
      if !goesOn then return (acc.reverse, false, after)
      let (g, c) ← Gap.read? (some indent) after.fuel {} after
      if !flow ∧ (c.column : Int) < indent then return (acc.reverse, g.broken, c)
      plain? flow indent k acc g c

def hexEscape? (digits : Nat) (c : Cursor) : Option (Char × Cursor) := do
  let ds ← (c.rest.take digits).mapM hexValue?
  let n := ds.foldl (fun n d => n * 16 + d) 0
  if ds.length = digits ∧ n.isValidChar then return (Char.ofNat n, c.skip digits) else none

/-- Reads an escape after its backslash. -/
def escape? (c : Cursor) : Option (Char × Cursor) :=
  match c.peek with
  | some '0' => some ('\x00', c.next)
  | some 'a' => some ('\x07', c.next)
  | some 'b' => some ('\x08', c.next)
  | some 't' | some '\t' => some ('\t', c.next)
  | some 'n' => some ('\n', c.next)
  | some 'v' => some ('\x0b', c.next)
  | some 'f' => some ('\x0c', c.next)
  | some 'r' => some ('\r', c.next)
  | some 'e' => some ('\x1b', c.next)
  | some ' ' => some (' ', c.next)
  | some '"' => some ('"', c.next)
  | some '/' => if c.dialect = .document then some ('/', c.next) else none
  | some '\'' => if c.dialect = .settings then some ('\'', c.next) else none
  | some '\\' => some ('\\', c.next)
  | some 'N' => some ('\u0085', c.next)
  | some '_' => some ('\u00a0', c.next)
  | some 'L' => some ('\u2028', c.next)
  | some 'P' => some ('\u2029', c.next)
  | some 'x' => hexEscape? 2 c.next
  | some 'u' => hexEscape? 4 c.next
  | some 'U' => hexEscape? 8 c.next
  | _ => none

/-- Reads a scalar in quotes after its opening quote. -/
def quoted? (quote : Char) : Nat → List Char → Cursor → Option (List Char × Cursor)
  | 0, _, _ => none
  | k + 1, acc, c =>
    if c.isDocumentMark then none
    else
      match c.peek with
      | none => none
      | some x =>
        if x = quote then
          if quote = '\'' ∧ c.hasAt 1 ['\''] then quoted? quote k ('\'' :: acc) (c.skip 2)
          else some (acc.reverse, c.next)
        else if c.endsAt 0 then do
          let (g, c) ← Gap.read? none c.fuel {} c
          quoted? quote k (g.text.reverse ++ acc) c
        else if quote = '"' ∧ x = '\\' then
          if c.next.breakHere then do
            let (g, c) ← Gap.read? none c.fuel { broken := true } (c.skip 2)
            quoted? quote k (g.text.reverse ++ acc) c
          else do
            let (x, c) ← escape? c.next
            quoted? quote k (x :: acc) c
        else quoted? quote k (x :: acc) c.next

/-- What happens to the breaks at the end of a block. -/
inductive Chomping where
  | strip
  | clip
  | keep

def chomping? (c : Cursor) : Option Chomping :=
  if c.isAt '+' then some .keep else if c.isAt '-' then some .strip else none

/-- The marks after the indicator of a block: chomping and a digit for the indent, in any order. -/
def header? (c : Cursor) : Option (Chomping × Option Nat × Cursor) :=
  let digit? (c : Cursor) : Option (Option Nat × Cursor) :=
    match c.peek with
    | some d =>
      if d = '0' then none
      else if d.isDigit then some (some (d.toNat - '0'.toNat), c.next)
      else some (none, c)
    | none => some (none, c)
  match chomping? c with
  | some chomp => (digit? c.next).map fun (n, c) => (chomp, n, c)
  | none => do
    let (n, c) ← digit? c
    match n, chomping? c with
    | some n, some chomp => return (chomp, some n, c.next)
    | n, _ => return (.clip, n, c)

/-- Reads empty lines and the indent of the first other one; finds how deep it is if that is not known. -/
def blockBreaks? (parent : Int) (indent : Int) : Nat → Int → List Char → Cursor →
    Option (Int × List Char × Cursor)
  | 0, _, _, _ => none
  | k + 1, deepest, breaks, c =>
    let room : Nat := if indent = 0 then c.size else (indent - c.column).toNat
    let c := c.skip ((c.rest.take room).takeWhile (· = ' ')).length
    let deepest := max deepest c.column
    if (indent = 0 ∨ (c.column : Int) < indent) ∧ c.isAt '\t' then none
    else
      match c.peek with
      | some x =>
        if c.dialect.isBreak x then blockBreaks? parent indent k deepest (breakText x :: breaks) c.next
        else some (if indent = 0 then max (max deepest (parent + 1)) 1 else indent, breaks.reverse, c)
      | none =>
        some (if indent = 0 then max (max deepest (parent + 1)) 1 else indent, breaks.reverse, c)

/-- Reads the lines of a block. The text so far is in reverse; the break after the line before and the
empty lines since are still to be placed. -/
def blockLines? (literal : Bool) (parent indent : Int) : Nat → List Char → Option Char → List Char → Bool →
    Cursor → Option (List Char × Option Char × List Char × Cursor)
  | 0, _, _, _, _, _ => none
  | k + 1, acc, lead, breaks, blankBefore, c =>
    if (c.column : Int) ≠ indent ∨ c.atEnd then some (acc, lead, breaks, c)
    else do
      let blank := c.blankHere
      let joint :=
        if !literal ∧ lead = some '\n' ∧ !blankBefore ∧ !blank then
          if breaks.isEmpty then [' '] else []
        else lead.toList
      let line := c.lineHere
      let acc := line.reverse ++ (joint ++ breaks).reverse ++ acc
      let c := c.skip line.length
      let (_, breaks, after) ← blockBreaks? parent indent c.fuel 0 [] c.next
      blockLines? literal parent indent k acc (c.peek.map breakText) breaks blank after

/-- Reads a block after its indicator; its lines are indented deeper than `parent`. -/
def block? (literal : Bool) (parent : Int) (c : Cursor) : Option (List Char × Cursor) := do
  let (chomp, depth, c) ← header? c
  let c ← c.endLine?
  let indent : Int := match depth with
    | none => 0
    | some n => if 0 ≤ parent then parent + n else n
  let (indent, breaks, c) ← blockBreaks? parent indent c.fuel 0 [] c
  let (acc, lead, breaks, c) ← blockLines? literal parent indent c.fuel [] none breaks false c
  let tail := match chomp with
    | .strip => []
    | .clip => lead.toList
    | .keep => lead.toList ++ breaks
  return (acc.reverse ++ tail, c)

end Scalar

end Arbiter.Yaml
