import Arbiter.Yaml.Scalar
import Arbiter.Yaml.Tag

/-! The tokens of a YAML text. Indentation becomes tokens of its own: each block is opened and closed.

That something was the key of a mapping shows only at the colon after it, so places where a key may have
begun are kept, and the tokens of a mapping and its key are put in there once the colon is found. -/

namespace Arbiter.Yaml

inductive Token where
  | directive (d : Directive)
  | documentStart
  | documentEnd
  | blockSequenceStart
  | blockMappingStart
  | blockEnd
  | flowSequenceStart
  | flowSequenceEnd
  | flowMappingStart
  | flowMappingEnd
  | blockEntry
  | flowEntry
  | key
  | value
  | alias (name : String)
  | anchor (name : String)
  | tag (t : Tag)
  | scalar (isPlain : Bool) (text : String)
  deriving DecidableEq, Repr

def Token.directive? : Token → Option Directive
  | .directive d => some d
  | _ => none

/-- A place where a key may have begun. -/
structure KeyPlace where
  /-- How many tokens came before it. -/
  position : Nat
  line : Nat
  column : Nat
  index : Nat
  /-- Nothing but a key can stand there. -/
  required : Bool

structure Scanner where
  cursor : Cursor
  tokens : Array Token := #[]
  /-- The column of the block that is open, before any is `-1`. -/
  indent : Int := -1
  outerIndents : List Int := []
  /-- How many flow collections are open. -/
  flowLevel : Nat := 0
  keyAllowed : Bool := true
  /-- The possible key of each flow level, the innermost first. -/
  keys : List (Option KeyPlace) := [none]
  /-- Where a colon may follow a scalar in quotes at once. -/
  colonAt : Option Nat := none

namespace Scanner

def dialect (s : Scanner) : Dialect := s.cursor.dialect

def inFlow (s : Scanner) : Bool := 0 < s.flowLevel

def emit (s : Scanner) (t : Token) : Scanner := { s with tokens := s.tokens.push t }

def insertAt (s : Scanner) (position : Nat) (t : Token) : Scanner :=
  { s with tokens := s.tokens.insertIdxIfInBounds position t }

/-- Skips blanks, comments and breaks before the next token. Tabs are blanks only where no block can
begin. -/
def skipToToken (s : Scanner) : Nat → Scanner
  | 0 => s
  | k + 1 =>
    match s.cursor.peek with
    | none => s
    | some x =>
      if x = ' ' ∨ (x = '\t' ∧ (s.inFlow ∨ !s.keyAllowed)) then
        skipToToken { s with cursor := s.cursor.next } k
      else if x = '#' then skipToToken { s with cursor := s.cursor.skipLine } k
      else if s.dialect.isBreak x then
        skipToToken { s with cursor := s.cursor.next, keyAllowed := s.keyAllowed || !s.inFlow } k
      else s

/-- A key ends on its line, within 1024 characters. -/
def isStale (c : Cursor) (p : KeyPlace) : Bool := p.line < c.line || p.index + 1024 < c.index

/-- Gives up the keys that have become impossible. -/
def dropStale? (s : Scanner) : Option Scanner :=
  if s.keys.any (·.any fun p => p.required && isStale s.cursor p) then none
  else some { s with keys := s.keys.map (·.filter fun p => !isStale s.cursor p) }

/-- Gives up the key of this level. -/
def dropKey? (s : Scanner) : Option Scanner :=
  match s.keys with
  | [] => some s
  | k :: keys => if k.any (·.required) then none else some { s with keys := none :: keys }

/-- Notes that a key may begin here. At the column of its block nothing else can stand in a document, while
in settings it is so only in flow collections. -/
def saveKey? (s : Scanner) : Option Scanner :=
  if s.keyAllowed then do
    let required := s.inFlow = (s.dialect = .settings) ∧ s.indent = s.cursor.column
    let c := s.cursor
    let s ← s.dropKey?
    return { s with keys := some ⟨s.tokens.size, c.line, c.column, c.index, required⟩ :: s.keys.drop 1 }
  else some s

/-- Opens a block at a column that is deeper than the open one. -/
def roll (s : Scanner) (column : Nat) (position : Nat) (t : Token) : Scanner :=
  if s.inFlow ∨ (column : Int) ≤ s.indent then s
  else { s.insertAt position t with indent := column, outerIndents := s.indent :: s.outerIndents }

/-- Closes the blocks that are deeper than a column. -/
def unrollAll (column : Int) (s : Scanner) : List Int → Scanner
  | [] => s
  | outer :: rest =>
    if column < s.indent then
      unrollAll column { s.emit .blockEnd with indent := outer, outerIndents := rest } rest
    else s

def unroll (s : Scanner) (column : Int) : Scanner :=
  if s.inFlow then s else unrollAll column s s.outerIndents

def finish? (s : Scanner) : Option Scanner := (s.unroll (-1)).dropKey?

def documentMark? (s : Scanner) : Option Scanner := do
  let t := if s.cursor.isAt '-' then Token.documentStart else .documentEnd
  let s ← (s.unroll (-1)).dropKey?
  return { s.emit t with keyAllowed := false, cursor := s.cursor.skip 3 }

def directive? (s : Scanner) : Option Scanner := do
  let s ← (s.unroll (-1)).dropKey?
  let (d, c) ← Directive.read? s.cursor.next
  return { s.emit (.directive d) with keyAllowed := false, cursor := c }

/-- How many flow collections may be open at once in settings. -/
def flowLimit : Nat := 255

def flowStart? (s : Scanner) (t : Token) : Option Scanner := do
  let s ← s.saveKey?
  if s.dialect = .settings ∧ s.flowLevel = flowLimit then none
  else return {
    s.emit t with
    flowLevel := s.flowLevel + 1
    keys := none :: s.keys
    keyAllowed := true
    cursor := s.cursor.next }

def flowEnd? (s : Scanner) (t : Token) : Option Scanner := do
  let s ← s.dropKey?
  let (level, keys) := if s.inFlow then (s.flowLevel - 1, s.keys.drop 1) else (s.flowLevel, s.keys)
  return { s.emit t with flowLevel := level, keys, keyAllowed := false, cursor := s.cursor.next }

def flowEntry? (s : Scanner) : Option Scanner := do
  let s ← s.dropKey?
  return { s.emit .flowEntry with keyAllowed := true, cursor := s.cursor.next }

def blockEntry? (s : Scanner) : Option Scanner :=
  if !s.inFlow ∧ !s.keyAllowed then none
  else do
    let s ← (s.roll s.cursor.column s.tokens.size .blockSequenceStart).dropKey?
    return { s.emit .blockEntry with keyAllowed := true, cursor := s.cursor.next }

def key? (s : Scanner) : Option Scanner :=
  if !s.inFlow ∧ !s.keyAllowed then none
  else do
    let s ← (s.roll s.cursor.column s.tokens.size .blockMappingStart).dropKey?
    return { s.emit .key with keyAllowed := !s.inFlow, cursor := s.cursor.next }

def value? (s : Scanner) : Option Scanner :=
  match s.keys with
  | some p :: keys =>
    let s := (s.insertAt p.position .key).roll p.column p.position .blockMappingStart
    some { s.emit .value with keys := none :: keys, keyAllowed := false, cursor := s.cursor.next }
  | _ =>
    if !s.inFlow ∧ !s.keyAllowed then none
    else
      let s := s.roll s.cursor.column s.tokens.size .blockMappingStart
      some { s.emit .value with keyAllowed := !s.inFlow, cursor := s.cursor.next }

/-- An anchor or alias, after its indicator. -/
def name? (s : Scanner) (make : String → Token) : Option Scanner := do
  let s ← s.saveKey?
  let name := s.cursor.next.rest.takeWhile isNameChar
  let after := s.cursor.next.skip name.length
  if name.isEmpty ∨ !(after.endsAt 0 || after.hasAt 0 ['?', ':', ',', ']', '\x7d', '%', '@', '\x60']) then none
  else return { s.emit (make (String.ofList name)) with keyAllowed := false, cursor := after }

/-- A tag, and a blank or an end after it. In documents a comma may follow in a flow collection. -/
def tag? (s : Scanner) : Option Scanner := do
  let s ← s.saveKey?
  let (t, c) ← Tag.read? s.cursor
  if c.endsAt 0 ∨ (s.dialect = .document ∧ s.inFlow ∧ c.isAt ',') then
    return { s.emit (.tag t) with keyAllowed := false, cursor := c }
  else none

def block? (s : Scanner) (literal : Bool) : Option Scanner := do
  let s ← s.dropKey?
  let (text, c) ← Scalar.block? literal s.indent s.cursor.next
  return { s.emit (.scalar false (String.ofList text)) with keyAllowed := true, cursor := c }

def quoted? (s : Scanner) (quote : Char) : Option Scanner := do
  let s ← s.saveKey?
  let (text, c) ← Scalar.quoted? quote s.cursor.fuel [] s.cursor.next
  return { s.emit (.scalar false (String.ofList text)) with keyAllowed := false, cursor := c, colonAt := c.index }

def plain? (s : Scanner) : Option Scanner := do
  let s ← s.saveKey?
  let (text, broken, c) ←
    Scalar.plain? s.inFlow (s.indent + 1) s.cursor.fuel [] {} s.cursor
  return { s.emit (.scalar true (String.ofList text)) with keyAllowed := broken, cursor := c }

/-- The characters that no plain scalar of a document begins with. -/
def indicators : List Char :=
  ['-', '?', ':', ',', '[', ']', '\x7b', '\x7d', '#', '&', '*', '!', '|', '>', '\'', '"', '%', '@', '\x60']

/-- Whether a plain scalar may begin here. In documents some indicators may begin one if a character follows
at once; in settings it may be anything that means nothing else here. -/
def startsPlain (s : Scanner) (x : Char) : Bool :=
  match s.dialect with
  | .document =>
    (x ∉ indicators && !isBlank x) || (x = '-' && !(s.cursor.rest.drop 1).head?.any isBlank) ||
      (!s.inFlow && (x = '?' || x = ':') && !s.cursor.endsAt 1)
  | .settings => x ∉ ['%', '@', '\x60']

/-- Whether a question mark begins a key here. -/
def startsKey (s : Scanner) : Bool := s.cursor.endsAt 1 || (s.dialect = .document && s.inFlow)

/-- Whether a colon begins a value here. -/
def startsValue (s : Scanner) : Bool :=
  s.cursor.endsAt 1 ||
    s.inFlow &&
      match s.dialect with
      | .document => true
      | .settings => s.cursor.hasAt 1 Scalar.flowMarks || s.colonAt = some s.cursor.index

/-- Reads the next token. -/
def token? (s : Scanner) (x : Char) : Option Scanner :=
  let c := s.cursor
  if c.column = 0 ∧ x = '%' then s.directive?
  else if c.isDocumentMark then s.documentMark?
  else if x = '[' then s.flowStart? .flowSequenceStart
  else if x = '\x7b' then s.flowStart? .flowMappingStart
  else if x = ']' then s.flowEnd? .flowSequenceEnd
  else if x = '\x7d' then s.flowEnd? .flowMappingEnd
  else if x = ',' then s.flowEntry?
  else if x = '-' ∧ c.endsAt 1 then s.blockEntry?
  else if x = '?' ∧ s.startsKey then s.key?
  else if x = ':' ∧ s.startsValue then s.value?
  else if x = '*' then s.name? .alias
  else if x = '&' then s.name? .anchor
  else if x = '!' then s.tag?
  else if x = '|' ∧ !s.inFlow then s.block? true
  else if x = '>' ∧ !s.inFlow then s.block? false
  else if x = '\'' ∨ x = '"' then s.quoted? x
  else if s.startsPlain x then s.plain?
  else none

def run? : Nat → Scanner → Option Scanner
  | 0, _ => none
  | k + 1, s => do
    let s ← (s.skipToToken s.cursor.fuel).dropStale?
    match s.cursor.peek with
    | none => s.finish?
    | some x => run? k (← (s.unroll s.cursor.column).token? x)

end Scanner

namespace Token

def ofText? (d : Dialect) (text : String) : Option (List Token) := do
  let c ← Cursor.ofText? d text
  let s ← Scanner.run? (c.fuel + 1) { cursor := c }
  return s.tokens.toList

end Token

end Arbiter.Yaml
