namespace Arbiter.Unicode

/-- The characters whose code points lie in one of the ranges, which include both ends. -/
structure CharSet where
  ranges : List (Nat × Nat)
  deriving DecidableEq

namespace CharSet

def has (s : CharSet) (c : Char) : Bool := s.ranges.any fun r => r.1 ≤ c.toNat && c.toNat ≤ r.2

def isEmpty (s : CharSet) : Bool := s.ranges.isEmpty

/-- Joins sorted ranges that touch or overlap. -/
def join : List (Nat × Nat) → List (Nat × Nat)
  | [] => []
  | [r] => [r]
  | (a, b) :: (c, d) :: rest =>
    if c ≤ b + 1 then join ((a, max b d) :: rest) else (a, b) :: join ((c, d) :: rest)
termination_by rs => rs.length

def ofRanges (rs : List (Nat × Nat)) : CharSet := ⟨join (rs.mergeSort fun r t => r.1 ≤ t.1)⟩

def nothing : CharSet := ⟨[]⟩

def lastCodePoint : Nat := 0x10FFFF

/-- The code points that are halves of pairs and no characters. -/
def surrogates : Nat × Nat := (0xD800, 0xDFFF)

def single (c : Char) : CharSet := ⟨[(c.toNat, c.toNat)]⟩

def interval (lo hi : Char) : CharSet := ⟨[(lo.toNat, hi.toNat)]⟩

def union (s t : CharSet) : CharSet := ofRanges (s.ranges ++ t.ranges)

def unionAll (ss : List CharSet) : CharSet := ofRanges (ss.flatMap (·.ranges))

/-- What lies between sorted ranges from `n` on. -/
def gaps (n : Nat) : List (Nat × Nat) → List (Nat × Nat)
  | [] => if n ≤ lastCodePoint then [(n, lastCodePoint)] else []
  | (a, b) :: rest => if n < a then (n, a - 1) :: gaps (b + 1) rest else gaps (b + 1) rest

def compl (s : CharSet) : CharSet := ⟨gaps 0 (ofRanges (surrogates :: s.ranges)).ranges⟩

def all : CharSet := compl nothing

def diff (s t : CharSet) : CharSet := compl (union (compl s) t)

def inter (s t : CharSet) : CharSet := diff s (compl t)

def symmDiff (s t : CharSet) : CharSet := union (diff s t) (diff t s)

/-- The one character of the set, if it has just one. -/
def only? (s : CharSet) : Option Char :=
  match s.ranges with
  | [(a, b)] => if a = b then some (Char.ofNat a) else none
  | _ => none

/-- Whether the set holds none but the first 128 characters. -/
def isAscii (s : CharSet) : Bool := s.ranges.all fun r => r.2 < 128

def hexDigit (c : Char) : Nat := if c.isDigit then c.toNat - '0'.toNat else c.toNat - 'A'.toNat + 10

/-- Reads ranges one character at a time: `lo` is set once a dash has been read. -/
def readRanges (lo : Option Nat) (n : Nat) : List Char → List (Nat × Nat)
  | [] => [(lo.getD n, n)]
  | ' ' :: cs => (lo.getD n, n) :: readRanges none 0 cs
  | '-' :: cs => readRanges (some n) 0 cs
  | c :: cs => readRanges lo (n * 16 + hexDigit c) cs

/-- Reads lines of code points and ranges with a dash, set apart by blanks. -/
def ofLines (lines : List String) : CharSet :=
  ofRanges (lines.flatMap fun line => readRanges none 0 line.toList)

def asciiLetters : CharSet := union (interval 'a' 'z') (interval 'A' 'Z')

def asciiDigits : CharSet := interval '0' '9'

def asciiAlphanumerics : CharSet := union asciiLetters asciiDigits

def asciiWord : CharSet := union asciiAlphanumerics (single '_')

def asciiBlank : CharSet := union (interval '\t' '\r') (single ' ')

def ascii? (name : String) : Option CharSet :=
  match name with
  | "alnum" => some asciiAlphanumerics
  | "alpha" => some asciiLetters
  | "ascii" => some (interval '\x00' '\x7f')
  | "blank" => some (union (single '\t') (single ' '))
  | "cntrl" => some (union (interval '\x00' '\x1f') (single '\x7f'))
  | "digit" => some asciiDigits
  | "graph" => some (interval '!' '~')
  | "lower" => some (interval 'a' 'z')
  | "print" => some (interval ' ' '~')
  | "punct" => some (diff (interval '!' '~') asciiAlphanumerics)
  | "space" => some asciiBlank
  | "upper" => some (interval 'A' 'Z')
  | "word" => some asciiWord
  | "xdigit" => some (unionAll [asciiDigits, interval 'a' 'f', interval 'A' 'F'])
  | _ => none

end CharSet

end Arbiter.Unicode
