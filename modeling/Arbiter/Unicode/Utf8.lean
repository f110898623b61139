/-! The bytes of characters. A range of characters splits into some sequences of byte ranges: every choice of
one byte from each range of a sequence is a character of the range, and there is no other. -/

namespace Arbiter.Unicode.Utf8

/-- How many bytes the character of a code point takes. -/
def width (n : Nat) : Nat := if n < 0x80 then 1 else if n < 0x800 then 2 else if n < 0x10000 then 3 else 4

def encode (n : Nat) : List Nat :=
  match width n with
  | 1 => [n]
  | 2 => [0xC0 + n / 64, 0x80 + n % 64]
  | 3 => [0xE0 + n / 4096, 0x80 + n / 64 % 64, 0x80 + n % 64]
  | _ => [0xF0 + n / 262144, 0x80 + n / 4096 % 64, 0x80 + n / 64 % 64, 0x80 + n % 64]

/-- Where a range is cut in two, if it must be: the start of the second part. Surrogates go, then the widths
differ, and then the last bytes do not run through all their values. -/
def cut? (lo hi : Nat) : Option Nat :=
  (([0x80, 0x800, 0x10000].find? fun n => lo < n ∧ n ≤ hi).or <|
    if hi < 0x80 then none
    else [64, 4096, 262144].findSome? fun m =>
      if lo / m = hi / m then none
      else if lo % m ≠ 0 then some ((lo / m + 1) * m)
      else if hi % m ≠ m - 1 then some (hi / m * m)
      else none)

/-- The ranges that need no cut, in order. -/
def pieces : Nat → Nat → Nat → List (Nat × Nat)
  | 0, _, _ => []
  | k + 1, lo, hi =>
    match cut? lo hi with
    | none => [(lo, hi)]
    | some n => pieces k lo (n - 1) ++ pieces k n hi

/-- The parts of a range that are no surrogates. -/
def withoutSurrogates (r : Nat × Nat) : List (Nat × Nat) :=
  [(r.1, min r.2 0xD7FF), (max r.1 0xE000, r.2)].filter fun r => r.1 ≤ r.2

/-- The sequences of byte ranges of a range of characters. Each width makes seven cuts at most. -/
def sequences (r : Nat × Nat) : List (List (Nat × Nat)) :=
  ((withoutSurrogates r).flatMap fun r => pieces 32 r.1 r.2).map fun r => (encode r.1).zip (encode r.2)

end Arbiter.Unicode.Utf8
