import Arbiter.Json.Basic
import Arbiter.Number.Shortest

namespace Arbiter.Json

/-- First digits from 10^-5 to 10^15 are written positionally, and a whole double keeps its `.0`. -/
def doubleLayout : NumberLayout := ⟨some (-5, 15), true, "null", "null"⟩

def hexDigit (n : Nat) : Char := Nat.digitChar n

def escape (c : Char) : List Char :=
  if c = '"' then ['\\', '"']
  else if c = '\\' then ['\\', '\\']
  else if c = '\n' then ['\\', 'n']
  else if c = '\r' then ['\\', 'r']
  else if c = '\t' then ['\\', 't']
  else if c = '\x08' then ['\\', 'b']
  else if c = '\x0c' then ['\\', 'f']
  else if c.toNat < 32 then ['\\', 'u', '0', '0', hexDigit (c.toNat / 16), hexDigit (c.toNat % 16)]
  else [c]

def quote (s : String) : String :=
  String.ofList ('"' :: s.toList.flatMap escape ++ ['"'])

def scalar : Json → String
  | bool b => if b then "true" else "false"
  | integer n => toString n
  | double x => if x.isFinite then doubleLayout.write x else "null"
  | string s => quote s
  | _ => "null"

mutual

/-- On one line, with no blanks. -/
def compact : Json → String
  | array items => "[" ++ ",".intercalate (compactItems items) ++ "]"
  | object members => "\x7b" ++ ",".intercalate (compactMembers members) ++ "\x7d"
  | v => scalar v

def compactItems : List Json → List String
  | [] => []
  | x :: xs => compact x :: compactItems xs

def compactMembers : List (String × Json) → List String
  | [] => []
  | (k, x) :: xs => (quote k ++ ":" ++ compact x) :: compactMembers xs

end

/-- The lines of a bracketed list, the brackets closing on an empty one. -/
def block (opening closing indent : String) (lines : List String) : String :=
  if lines.isEmpty then opening ++ closing
  else opening ++ "\n" ++ ",\n".intercalate (lines.map (indent ++ "  " ++ ·)) ++ "\n" ++ indent ++ closing

mutual

/-- One element to a line. -/
def pretty (indent : String) : Json → String
  | array items => block "[" "]" indent (prettyItems (indent ++ "  ") items)
  | object members => block "\x7b" "\x7d" indent (prettyMembers (indent ++ "  ") members)
  | v => scalar v

def prettyItems (indent : String) : List Json → List String
  | [] => []
  | x :: xs => pretty indent x :: prettyItems indent xs

def prettyMembers (indent : String) : List (String × Json) → List String
  | [] => []
  | (k, x) :: xs => (quote k ++ ": " ++ pretty indent x) :: prettyMembers indent xs

end

end Arbiter.Json
