import Arbiter.Number.Numeral
import Arbiter.Yaml.Cursor

namespace Arbiter.Yaml

/-- A tag as written. Its handle is empty if it is written out between angle brackets, or is a mark alone. -/
structure Tag where
  handle : String
  suffix : String
  deriving DecidableEq, Repr

inductive Directive where
  | version (major minor : Nat)
  | handle (name meaning : String)
  /-- One that is passed over. -/
  | other
  deriving DecidableEq, Repr

/-- The characters of names. -/
def isNameChar (c : Char) : Bool := c.isAlphanum || c = '_' || c = '-'

namespace Tag

/-- The characters of tags besides those of names. -/
def marks : List Char :=
  [';', '/', '?', ':', '@', '&', '=', '+', '$', '.', '!', '~', '*', '\'', '(', ')']

/-- Those that may stand only where a tag is written out. -/
def outerMarks : List Char := [',', '[', ']']

/-- How many bytes a character has whose first one is this. -/
def width? (byte : Nat) : Option Nat :=
  if byte < 0x80 then some 1
  else if byte / 0x20 = 6 then some 2
  else if byte / 0x10 = 14 then some 3
  else if byte / 8 = 30 then some 4
  else none

def byte? (cs : List Char) : Option Nat :=
  match cs with
  | '%' :: a :: b :: _ => do return (← hexValue? a) * 16 + (← hexValue? b)
  | _ => none

/-- Reads the other bytes of a character, all of which must go on with it. -/
def moreBytes? : (count n : Nat) → Cursor → Option (Nat × Cursor)
  | 0, n, c => some (n, c)
  | k + 1, n, c => do
    let byte ← byte? c.rest
    if byte / 0x40 = 2 then moreBytes? k (n * 0x40 + byte % 0x40) (c.skip 3) else none

/-- Reads a character whose bytes are escaped. -/
def escape? (c : Cursor) : Option (Char × Cursor) := do
  let byte ← byte? c.rest
  let width ← width? byte
  let start := if width = 1 then byte else byte % Nat.pow 2 (7 - width)
  let (n, c) ← moreBytes? (width - 1) start (c.skip 3)
  return (if n.isValidChar then Char.ofNat n else '\ufffd', c)

/-- Reads the characters of a tag, in reverse onto what is there. -/
def chars? (outer : Bool) : Nat → List Char → Cursor → Option (List Char × Cursor)
  | 0, _, _ => none
  | k + 1, acc, c =>
    match c.peek with
    | some '%' => do
      let (x, c) ← escape? c
      chars? outer k (x :: acc) c
    | some x =>
      if isNameChar x || x ∈ marks || (outer && x ∈ outerMarks) then chars? outer k (x :: acc) c.next
      else some (acc, c)
    | none => some (acc, c)

/-- A text in a tag, which a NUL ends. -/
def textOf (acc : List Char) : String := String.ofList (acc.reverse.takeWhile (· ≠ '\x00'))

/-- Reads what stands for a handle or follows it, which must not be empty. -/
def part? (outer : Bool) (c : Cursor) : Option (String × Cursor) := do
  let (acc, after) ← chars? outer c.fuel [] c
  if acc.isEmpty then none else return (textOf acc, after)

/-- Reads a handle, or the start of one: a mark, a name and a second mark. -/
def handle? (c : Cursor) : Option (List Char × Cursor) :=
  if c.isAt '!' then
    let name := c.next.rest.takeWhile isNameChar
    let c := c.skip (name.length + 1)
    if c.isAt '!' then some ('!' :: name ++ ['!'], c.next) else some ('!' :: name, c)
  else none

/-- Reads a tag. In documents marks of a flow collection belong to it only between angle brackets. -/
def read? (c : Cursor) : Option (Tag × Cursor) := do
  let loose := c.dialect = .settings
  if c.hasAt 1 ['<'] then
    let (suffix, c) ← part? true (c.skip 2)
    if c.isAt '>' then return (⟨"", suffix⟩, c.next) else none
  else
    let (handle, c) ← handle? c
    if 2 ≤ handle.length ∧ handle.getLast? = some '!' then
      let (suffix, c) ← part? loose c
      return (⟨String.ofList handle, suffix⟩, c)
    else
      let (acc, c) ← chars? loose c.fuel (handle.drop 1).reverse c
      let suffix := textOf acc
      return (if suffix.isEmpty then ⟨"", "!"⟩ else ⟨"!", suffix⟩, c)

/-- The type that a text of this name has by its tag. -/
def standard (name : String) : String := "tag:yaml.org,2002:" ++ name

/-- What handles stand for unless it is said otherwise. -/
def defaultHandles : List (String × String) := [("!", "!"), ("!!", standard "")]

/-- What a tag stands for in a text that tells of these handles. In settings only the two marks of the
standard types have a meaning. -/
def resolve? (d : Dialect) (handles : List (String × String)) (t : Tag) : Option String :=
  match d with
  | .document =>
    if t.handle.isEmpty then some t.suffix
    else ((handles ++ defaultHandles).find? (·.1 = t.handle)).map (·.2 ++ t.suffix)
  | .settings => some (if t.handle = "!!" then standard t.suffix else "!" ++ t.handle ++ t.suffix)

end Tag

namespace Directive

/-- Reads a number of a version, of at most nine digits. -/
def number? (c : Cursor) : Option (Nat × Cursor) :=
  let (digits, _) := takeDigits c.rest
  if digits.isEmpty ∨ 9 < digits.length then none
  else some (Decimal.ofDigits digits, c.skip digits.length)

def version? (c : Cursor) : Option (Directive × Cursor) := do
  let (major, c) ← number? c.skipBlanks
  if c.isAt '.' then
    let (minor, c) ← number? c.next
    return (.version major minor, c)
  else none

def handleOf? (c : Cursor) : Option (Directive × Cursor) := do
  let (name, c) ← Tag.handle? c.skipBlanks
  if name.getLast? ≠ some '!' ∨ (c.dialect = .document ∧ !c.blankHere) then none
  else
    let (meaning, c) ← Tag.part? true c.skipBlanks
    if c.endsAt 0 then return (.handle (String.ofList name) meaning, c) else none

/-- Reads a directive after its percent sign. Documents have no other ones than those two. -/
def read? (c : Cursor) : Option (Directive × Cursor) := do
  let name := c.rest.takeWhile isNameChar
  let after := c.skip name.length
  if name.isEmpty ∨ !after.endsAt 0 then none
  else
    let (d, c) ←
      if name = ['Y', 'A', 'M', 'L'] then version? after
      else if name = ['T', 'A', 'G'] then handleOf? after
      else if c.dialect = .settings then some (other, after.skipLine)
      else none
    return (d, ← c.endLine?)

/-- What the handles stand for that directives tell. In documents there is at most one version, and each
handle is told once. -/
def handles? (d : Dialect) (ds : List Directive) : Option (List (String × String)) :=
  let versions := ds.filterMap fun
    | version major minor => some (major, minor)
    | _ => none
  let handles := ds.filterMap fun
    | handle name meaning => some (name, meaning)
    | _ => none
  match d with
  | .settings => some handles
  | .document =>
    if versions ∈ [[], [(1, 1)], [(1, 2)]] ∧ (handles.map (·.1)).Nodup then some handles else none

end Directive

end Arbiter.Yaml
