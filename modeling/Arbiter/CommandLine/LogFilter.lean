import Arbiter.Number.Numeral
import Arbiter.Pattern.Basic
import Arbiter.Settings.Basic
import Arbiter.Unicode.Derived

/-! What is logged: directives between commas. Each is a level, or a target or a span in brackets with or
without one, and the fields of a span stand in braces. A target may hold any characters after its first. -/

namespace Arbiter.LogFilter

/-- The characters of a text from one byte on. -/
def dropBytes (cs : List Char) (n : Nat) : List Char :=
  match cs with
  | [] => []
  | c :: cs => if n = 0 then c :: cs else dropBytes cs (n - c.utf8Size)

def takeBytes (cs : List Char) (n : Nat) : List Char :=
  match cs with
  | [] => []
  | c :: cs => if n = 0 then [] else c :: takeBytes cs (n - c.utf8Size)

/-- The words for levels, in any case. -/
def levelWords : List String := ["error", "warn", "info", "debug", "trace", "off"]

/-- A level is a word, a number up to five, or nothing. -/
def isLevel (cs : List Char) : Bool :=
  let digits := match cs with
    | '+' :: ds => ds
    | ds => ds
  cs.isEmpty || (String.ofList cs).toLower ∈ levelWords || (Numeral.natural? 10 digits).any (· ≤ 5)

/-- What a field may be compared with: a number, or a pattern that looks for no edges of words beyond
ASCII. -/
def isValue (cs : List Char) : Bool :=
  let s := String.ofList cs
  (Binary64.ofText? s).isSome || (Pattern.ofText? s).any fun p => !p.regex.hasWideEdge

/-- A field has a name, and may be compared with what stands between its first equals signs. -/
def isField (cs : List Char) : Bool :=
  !cs.isEmpty &&
    match cs.dropWhile (· ≠ '=') with
    | [] => true
    | _ :: rest => isValue (rest.takeWhile (· ≠ '='))

/-- Where the reading of a directive stands; some parts are known by the byte at which they begin. -/
inductive Stage where
  | start
  | levelOrTarget
  | span
  | field (begin : Nat)
  | fields
  | target
  | level (begin : Nat)

/-- A directive that ends here is whole. -/
def Stage.isFinal (directive : List Char) : Stage → Bool
  | levelOrTarget | target => true
  | level begin => isLevel (dropBytes directive begin)
  | start | span | field _ | fields => false

def beginsTarget (c : Char) : Bool :=
  c ∈ ['-', ':', '_'] || Unicode.alphabetic.has c || Unicode.number.has c

/-- Takes the character at a byte. -/
def Stage.step? (directive : List Char) (here : Nat) (c : Char) : Stage → Option Stage
  | start => if c = '[' then some span else if beginsTarget c then some levelOrTarget else none
  | levelOrTarget => some (if c = '=' then level (here + 1) else if c = '[' then span else levelOrTarget)
  | span => some (if c = ']' then target else if c = '\x7b' then field (here + 1) else span)
  | field begin =>
    if c ≠ '\x7d' then some (field begin)
    else if isField (takeBytes (dropBytes directive begin) (here - begin)) then some fields
    else none
  | fields => if c = ']' then some target else none
  | target => if c = '=' then some (level (here + 1)) else none
  | level begin => some (level begin)

def run (directive : List Char) (here : Nat) (s : Stage) : List Char → Bool
  | [] => s.isFinal directive
  | c :: cs =>
    match s.step? directive here c with
    | none => false
    | some s => run directive (here + c.utf8Size) s cs

def trim (cs : List Char) : List Char :=
  ((cs.dropWhile isBlankChar).reverse.dropWhile isBlankChar).reverse

/-- Blanks around a directive are passed over, but bytes are counted without those before it. -/
def isDirective (cs : List Char) : Bool := run cs 0 .start (trim cs)

def isValid (s : String) : Bool :=
  (s.splitOn ",").all fun d => d.isEmpty || isDirective d.toList

end Arbiter.LogFilter
