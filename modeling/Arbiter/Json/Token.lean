import Arbiter.Json.Numeral

namespace Arbiter.Json

inductive Token where
  | openArray
  | closeArray
  | openObject
  | closeObject
  | comma
  | colon
  | null
  | bool (b : Bool)
  /-- A numeral, with its value if that is not too large. -/
  | number (value : Option Json)
  /-- A text, if its escapes stand for characters. -/
  | string (text : Option String)

/-- What one step inside quotes gives: a character, or one of two halves that an escape may stand for. -/
inductive TextPart where
  | char (c : Char)
  | half (n : Nat)

namespace TextPart

/-- The escape of four hexadecimal digits. -/
def ofCode (n : Nat) : TextPart :=
  if 0xD800 ≤ n ∧ n < 0xE000 then half n else char (Char.ofNat n)

/-- The character of two halves, of which the first is a high one. -/
def join? (high low : Nat) : Option Char :=
  if high < 0xDC00 ∧ 0xDC00 ≤ low then
    some (Char.ofNat (0x10000 + (high - 0xD800) * 0x400 + (low - 0xDC00)))
  else none

/-- Puts parts, the last one first, before what follows. Half of a pair alone stands for nothing. -/
def chars? (after : List Char) : List TextPart → Option (List Char)
  | [] => some after
  | char c :: before => chars? (c :: after) before
  | half low :: half high :: before =>
    match join? high low with
    | some c => chars? (c :: after) before
    | none => none
  | [half _] | half _ :: char _ :: _ => none

end TextPart

namespace Token

/-- Where the pass stands. What was read so far is held in reverse. -/
inductive Scan where
  | between
  | word (before : List Char)
  | numeral (before : List Char)
  | text (before : List TextPart)
  | escape (before : List TextPart)
  /-- Inside the four hexadecimal digits of an escape. -/
  | code (before : List TextPart) (left : Nat) (n : Nat)

structure State where
  scan : Scan := .between
  /-- The tokens found, in reverse. -/
  tokens : List Token := []

def isBlank (c : Char) : Bool := c = ' ' || c = '\t' || c = '\n' || c = '\r'

def isNumeral (c : Char) : Bool :=
  c.isDigit || c = '-' || c = '+' || c = '.' || c = 'e' || c = 'E'

def word? (s : List Char) : Option Token :=
  if s = ['t', 'r', 'u', 'e'] then some (.bool true)
  else if s = ['f', 'a', 'l', 's', 'e'] then some (.bool false)
  else if s = ['n', 'u', 'l', 'l'] then some .null
  else none

def between (tokens : List Token) (c : Char) : Option State :=
  if isBlank c then some ⟨.between, tokens⟩
  else if c = '[' then some ⟨.between, .openArray :: tokens⟩
  else if c = ']' then some ⟨.between, .closeArray :: tokens⟩
  else if c = '\x7b' then some ⟨.between, .openObject :: tokens⟩
  else if c = '\x7d' then some ⟨.between, .closeObject :: tokens⟩
  else if c = ',' then some ⟨.between, .comma :: tokens⟩
  else if c = ':' then some ⟨.between, .colon :: tokens⟩
  else if c = '"' then some ⟨.text [], tokens⟩
  else if c.isDigit || c = '-' then some ⟨.numeral [c], tokens⟩
  else if c.isLower then some ⟨.word [c], tokens⟩
  else none

/-- Ends a word or numeral. -/
def finish? (s : State) : Option (List Token) :=
  match s.scan with
  | .between => some s.tokens
  | .word before => (word? before.reverse).map (· :: s.tokens)
  | .numeral before => (Numeral.Parts.ofChars? before.reverse).map (.number ·.value? :: s.tokens)
  | _ => none

def simpleEscape? (c : Char) : Option Char :=
  if c = '"' ∨ c = '\\' ∨ c = '/' then some c
  else if c = 'b' then some '\x08'
  else if c = 'f' then some '\x0c'
  else if c = 'n' then some '\n'
  else if c = 'r' then some '\r'
  else if c = 't' then some '\t'
  else none

def step (s : State) (c : Char) : Option State :=
  match s.scan with
  | .between => between s.tokens c
  | .word before =>
    if c.isLower then some ⟨.word (c :: before), s.tokens⟩ else (finish? s).bind (between · c)
  | .numeral before =>
    if isNumeral c then some ⟨.numeral (c :: before), s.tokens⟩ else (finish? s).bind (between · c)
  | .text before =>
    if c = '"' then some ⟨.between, .string ((TextPart.chars? [] before).map String.ofList) :: s.tokens⟩
    else if c = '\\' then some ⟨.escape before, s.tokens⟩
    else if c.toNat < 32 then none
    else some ⟨.text (.char c :: before), s.tokens⟩
  | .escape before =>
    if c = 'u' then some ⟨.code before 4 0, s.tokens⟩
    else (simpleEscape? c).map fun d => ⟨.text (.char d :: before), s.tokens⟩
  | .code before left n => do
    let m := n * 16 + (← hexValue? c)
    if left ≤ 1 then return ⟨.text (.ofCode m :: before), s.tokens⟩
    else return ⟨.code before (left - 1) m, s.tokens⟩

def ofText? (text : String) : Option (List Token) := do
  let s ← text.toList.foldlM step {}
  return (← finish? s).reverse

end Token

end Arbiter.Json
