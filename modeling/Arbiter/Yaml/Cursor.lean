namespace Arbiter.Yaml

/-- What is written in a text. Settings are read by looser rules than documents and requests. -/
inductive Dialect where
  | document
  | settings
  deriving DecidableEq, Repr

/-- Line feeds and carriage returns end lines, and in documents two separators do, which are kept when lines
are folded. -/
def Dialect.isBreak (d : Dialect) (c : Char) : Bool :=
  c = '\n' || c = '\r' || (d = .document && (c = '\u2028' || c = '\u2029'))

def isBlank (c : Char) : Bool := c = ' ' || c = '\t'

/-- The control characters that no document may hold are all but these. -/
def isPrintable (c : Char) : Bool :=
  let n := c.toNat
  n = 9 || n = 10 || n = 13 || (0x20 ≤ n && n ≤ 0x7E) || n = 0x85 || (0xA0 ≤ n && n ≤ 0xFFFD) || 0x10000 ≤ n

/-- The text with ends of lines as line feeds. In settings a carriage return alone stays one. -/
def Dialect.normalize (d : Dialect) : List Char → List Char
  | '\r' :: '\n' :: cs => '\n' :: d.normalize cs
  | c :: cs => (if d = .document ∧ (c = '\r' ∨ c.toNat = 0x85) then '\n' else c) :: d.normalize cs
  | [] => []

structure Cursor where
  dialect : Dialect
  rest : List Char
  /-- The length of the whole text. -/
  size : Nat
  line : Nat := 0
  column : Nat := 0
  index : Nat := 0

namespace Cursor

/-- A bound on the steps that a pass over the rest takes. -/
def fuel (c : Cursor) : Nat := c.size + 1

/-- A carriage return alone ends a line, but what follows is counted on the same one. -/
def next (c : Cursor) : Cursor :=
  match c.rest with
  | [] => c
  | x :: rest =>
    if c.dialect.isBreak x ∧ x ≠ '\r' then { c with rest, line := c.line + 1, column := 0, index := c.index + 1 }
    else { c with rest, column := c.column + 1, index := c.index + 1 }

def skip (c : Cursor) : Nat → Cursor
  | 0 => c
  | n + 1 => c.next.skip n

def peek (c : Cursor) : Option Char := c.rest.head?

def atEnd (c : Cursor) : Bool := c.rest.isEmpty

def isAt (c : Cursor) (x : Char) : Bool := c.peek = some x

/-- The start of a text. A document begins after its byte order mark, and a NUL ends settings. -/
def ofText? (d : Dialect) (text : String) : Option Cursor :=
  let start (cs : List Char) : Cursor := { dialect := d, rest := cs, size := cs.length }
  match d with
  | .document =>
    if text.toList.all isPrintable then
      let c := start (d.normalize text.toList)
      some (if c.isAt '\ufeff' then c.next else c)
    else none
  | .settings => some (start (d.normalize (text.toList.takeWhile (· ≠ '\x00'))))

/-- Whether the character `n` places on is among these. -/
def hasAt (c : Cursor) (n : Nat) (xs : List Char) : Bool :=
  match c.rest[n]? with
  | some x => x ∈ xs
  | none => false

def blankHere (c : Cursor) : Bool := c.peek.any isBlank

def breakHere (c : Cursor) : Bool := c.peek.any c.dialect.isBreak

/-- Whether a blank, an end of line or the end of the text is `n` places on. -/
def endsAt (c : Cursor) (n : Nat) : Bool :=
  match c.rest[n]? with
  | some x => isBlank x || c.dialect.isBreak x
  | none => true

/-- Whether a document starts or ends here. -/
def isDocumentMark (c : Cursor) : Bool :=
  c.column = 0 && (c.rest.take 3 = ['-', '-', '-'] || c.rest.take 3 = ['.', '.', '.']) && c.endsAt 3

/-- The characters up to the end of the line. -/
def lineHere (c : Cursor) : List Char := c.rest.takeWhile (!c.dialect.isBreak ·)

/-- Skips to the end of the line. -/
def skipLine (c : Cursor) : Cursor := c.skip c.lineHere.length

def skipBlanks (c : Cursor) : Cursor :=
  c.skip (c.rest.takeWhile isBlank).length

/-- Skips blanks and a comment, after which the line must end. -/
def endLine? (c : Cursor) : Option Cursor :=
  let c := c.skipBlanks
  let c := if c.isAt '#' then c.skipLine else c
  if c.atEnd || c.breakHere then some c.next else none

end Cursor

end Arbiter.Yaml
