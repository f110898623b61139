import Arbiter.Pattern.Regex
import Arbiter.Unicode.Folding
import Arbiter.Unicode.Property

namespace Arbiter.Pattern

open Unicode (CharSet)

/-- The flags in force. -/
structure Flags where
  caseless : Bool := false
  multiLine : Bool := false
  dotAll : Bool := false
  /-- A carriage return ends lines too. -/
  carriageReturn : Bool := false
  unicode : Bool := true
  /-- Blanks and comments between the parts of the expression mean nothing. -/
  spaced : Bool := false

namespace Flags

def set (f : Flags) (c : Char) (on : Bool) : Option Flags :=
  match c with
  | 'i' => some { f with caseless := on }
  | 'm' => some { f with multiLine := on }
  | 's' => some { f with dotAll := on }
  | 'R' => some { f with carriageReturn := on }
  | 'u' => some { f with unicode := on }
  | 'x' => some { f with spaced := on }
  | 'U' => some f
  | _ => none

def word (f : Flags) : CharSet := if f.unicode then Unicode.word else CharSet.asciiWord

def fold (f : Flags) (s : CharSet) : CharSet :=
  if f.caseless then if f.unicode then s.fold else s.foldAscii else s

/-- Sets of characters past the first 128 need Unicode. -/
def allows (f : Flags) (s : CharSet) : Bool := f.unicode || s.isAscii

end Flags

/-- What stands for one character or for a place between two. -/
inductive Atom where
  | char (c : Char)
  | set (s : CharSet)
  | look (l : Look)

def isBlank (c : Char) : Bool := Unicode.blank.has c

/-- Skips blanks, and comments up to the ends of their lines. -/
def skipBlanks (comment : Bool) : List Char → List Char
  | [] => []
  | c :: cs =>
    if comment then skipBlanks (c ≠ '\n') cs
    else if isBlank c then skipBlanks false cs
    else if c = '#' then skipBlanks true cs
    else c :: cs

def Flags.skip (f : Flags) (cs : List Char) : List Char := if f.spaced then skipBlanks false cs else cs

namespace Escape

def hexValue? (c : Char) : Option Nat :=
  if c.isDigit then some (c.toNat - '0'.toNat)
  else if 'a' ≤ c ∧ c ≤ 'f' then some (c.toNat - 'a'.toNat + 10)
  else if 'A' ≤ c ∧ c ≤ 'F' then some (c.toNat - 'A'.toNat + 10)
  else none

def charOf? (n : Nat) : Option Char := if n.isValidChar then some (Char.ofNat n) else none

/-- So many hexadecimal digits. -/
def hexDigits? (f : Flags) (n : Nat) : Nat → List Char → Option (Nat × List Char)
  | 0, cs => some (n, cs)
  | k + 1, cs =>
    match cs with
    | [] => none
    | c :: cs => do hexDigits? f (n * 16 + (← hexValue? c)) k (f.skip cs)

/-- Hexadecimal digits up to a closing brace. The value stops growing once it is no character. -/
def hexInBraces? (f : Flags) (n : Nat) (any : Bool) : Nat → List Char → Option (Nat × List Char)
  | 0, _ => none
  | k + 1, cs =>
    match cs with
    | [] => none
    | '\x7d' :: cs => if any then some (n, f.skip cs) else none
    | c :: cs => do hexInBraces? f (min (n * 16 + (← hexValue? c)) 0x110000) true k (f.skip cs)

/-- A character by its number. Without Unicode, two digits stand for a byte, which is a character only among
the first 128. -/
def hex? (f : Flags) (digits : Nat) (cs : List Char) : Option (Atom × List Char) :=
  match f.skip cs with
  | '\x7b' :: cs => do
    let (n, cs) ← hexInBraces? f 0 false (cs.length + 1) (f.skip cs)
    return (.char (← charOf? n), cs)
  | cs => do
    let (n, cs) ← hexDigits? f 0 digits cs
    if digits = 2 ∧ 127 < n ∧ f.unicode = false then none
    else return (.char (← charOf? n), cs)

/-- Cuts a name at the sign between a property and its value. -/
def splitAt? (sign : List Char) : List Char → Option (List Char × List Char)
  | [] => none
  | c :: cs =>
    if sign.isPrefixOf (c :: cs) then some ([], (c :: cs).drop sign.length)
    else (splitAt? sign cs).map fun (a, b) => (c :: a, b)

/-- A property by its name, or by name and value; `true` stands before a set whose complement is meant. -/
def property? (name : List Char) : Option (Bool × CharSet) :=
  let byValue (p v : List Char) := Unicode.Property.byValue? (String.ofList p) (String.ofList v)
  match splitAt? ['!', '='] name with
  | some (p, v) => (byValue p v).map (true, ·)
  | none =>
    match (splitAt? [':'] name).or (splitAt? ['='] name) with
    | some (p, v) => (byValue p v).map (false, ·)
    | none => (Unicode.Property.byName? (String.ofList name)).map (false, ·)

/-- The characters up to a closing brace. -/
def inBraces? (f : Flags) (before : List Char) : Nat → List Char → Option (List Char × List Char)
  | 0, _ => none
  | k + 1, cs =>
    match cs with
    | [] => none
    | '\x7d' :: cs => some (before.reverse, cs)
    | c :: cs => inBraces? f (c :: before) k (f.skip cs)

/-- The name of a property, one letter or in braces. -/
def propertyName? (f : Flags) (cs : List Char) : Option (List Char × List Char) :=
  match f.skip cs with
  | [] => none
  | '\x7b' :: cs => inBraces? f [] (cs.length + 1) (f.skip cs)
  | '\\' :: _ => none
  | c :: cs => some ([c], f.skip cs)

def negateIf (negated : Bool) (s : CharSet) : CharSet := if negated then s.compl else s

def namedSet? (f : Flags) (negated : Bool) (cs : List Char) : Option (Atom × List Char) := do
  let (name, cs) ← propertyName? f cs
  let (complement, s) ← property? name
  if f.unicode then return (.set (negateIf (negated != complement) (f.fold s)), cs) else none

/-- One of the sets of digits, blanks and word characters. Without Unicode its complement is none. -/
def letterSet? (f : Flags) (c : Char) (cs : List Char) : Option (Atom × List Char) :=
  let (s, ascii) :=
    if c.toLower = 'd' then (Unicode.digit, CharSet.asciiDigits)
    else if c.toLower = 's' then (Unicode.blank, CharSet.asciiBlank)
    else (Unicode.word, CharSet.asciiWord)
  if f.unicode then some (.set (negateIf c.isUpper s), cs)
  else if c.isUpper then none
  else some (.set ascii, cs)

def isEdgeChar (c : Char) : Bool := c.isAlpha || c = '-'

/-- Takes the letters of a kind of word edge. -/
def edgeName (f : Flags) (before : List Char) : Nat → List Char → List Char × List Char
  | 0, cs => (before.reverse, cs)
  | k + 1, cs =>
    match cs with
    | [] => (before.reverse, [])
    | c :: rest => if isEdgeChar c then edgeName f (c :: before) k (f.skip rest) else (before.reverse, cs)

/-- The edge of a word, of a kind in braces if there is one. Other braces are a repetition. -/
def edge? (f : Flags) (cs : List Char) : Option (Atom × List Char) :=
  match cs with
  | '\x7b' :: rest =>
    match f.skip rest with
    | [] => none
    | c :: inner =>
      if isEdgeChar c then
        let (name, after) := edgeName f [] (inner.length + 1) (c :: inner)
        match after with
        | '\x7d' :: after =>
          match String.ofList name with
          | "start" => some (.look (.wordStart f.word), after)
          | "end" => some (.look (.wordEnd f.word), after)
          | "start-half" => some (.look (.wordStartHalf f.word), after)
          | "end-half" => some (.look (.wordEndHalf f.word), after)
          | _ => none
        | _ => none
      else some (.look (.wordEdge f.word), cs)
  | _ => some (.look (.wordEdge f.word), cs)

/-- Whether a character stands for itself after a backslash. -/
def isItself (c : Char) : Bool := c.toNat < 128 && !c.isAlphanum && c ≠ '<' && c ≠ '>'

/-- Reads an escape after its backslash. -/
def read? (f : Flags) : List Char → Option (Atom × List Char)
  | [] => none
  | c :: cs =>
    if c = 'x' then hex? f 2 cs
    else if c = 'u' then hex? f 4 cs
    else if c = 'U' then hex? f 8 cs
    else if c = 'p' ∨ c = 'P' then namedSet? f (c = 'P') cs
    else if c = 'd' ∨ c = 'D' ∨ c = 's' ∨ c = 'S' ∨ c = 'w' ∨ c = 'W' then letterSet? f c cs
    else if isItself c then some (.char c, cs)
    else if c = 'a' then some (.char '\x07', cs)
    else if c = 'f' then some (.char '\x0c', cs)
    else if c = 't' then some (.char '\t', cs)
    else if c = 'n' then some (.char '\n', cs)
    else if c = 'r' then some (.char '\r', cs)
    else if c = 'v' then some (.char '\x0b', cs)
    else if c = 'A' then some (.look .startText, cs)
    else if c = 'z' then some (.look .endText, cs)
    else if c = 'b' then edge? f cs
    else if c = 'B' then some (.look (.notWordEdge f.word), cs)
    else if c = '<' then some (.look (.wordStart f.word), cs)
    else if c = '>' then some (.look (.wordEnd f.word), cs)
    else none

end Escape

end Arbiter.Pattern
