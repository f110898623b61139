import Arbiter.Json.Writer
import Arbiter.Yaml.Cursor

namespace Arbiter.Yaml

def doubleLayout : NumberLayout := { Json.doubleLayout with infinity := ".inf", notANumber := ".nan" }

def hexDigits (n : Nat) : Nat → List Char
  | 0 => []
  | places + 1 => hexDigits (n / 16) places ++ [Nat.digitChar (n % 16)]

def escape (c : Char) : List Char :=
  if c = '"' ∨ c = '\\' then ['\\', c]
  else if c.toNat < 0x20 ∨ c.toNat = 0x85 ∨ Dialect.document.isBreak c ∨ !isPrintable c then
    '\\' :: 'U' :: hexDigits c.toNat 8
  else [c]

def quote (s : String) : String := String.ofList ('"' :: s.toList.flatMap escape ++ ['"'])

mutual

def write : Json → String
  | .string s => quote s
  | .double x => doubleLayout.write x
  | .array items => "[" ++ ", ".intercalate (writeItems items) ++ "]"
  | .object members => "\x7b" ++ ", ".intercalate (writeMembers members) ++ "\x7d"
  | v => Json.scalar v

def writeItems : List Json → List String
  | [] => []
  | x :: xs => write x :: writeItems xs

def writeMembers : List (String × Json) → List String
  | [] => []
  | (k, x) :: xs => ("? " ++ quote k ++ " : " ++ write x) :: writeMembers xs

end

end Arbiter.Yaml
