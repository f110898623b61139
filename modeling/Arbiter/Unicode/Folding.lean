import Arbiter.Unicode.Derived

namespace Arbiter.Unicode.CharSet

/-- The set with the case variants of its members. -/
def fold (s : CharSet) : CharSet :=
  let variants := foldClasses.filter fun ns => ns.any fun n => s.has (Char.ofNat n)
  ofRanges (s.ranges ++ variants.flatten.map fun n => (n, n))

/-- The part of the set that lies among the letters from `lo` to `hi`, moved to those from `first`. -/
def shift (s : CharSet) (lo hi first : Char) : List (Nat × Nat) :=
  s.ranges.filterMap fun r =>
    let a := max r.1 lo.toNat
    let b := min r.2 hi.toNat
    if a ≤ b then some (a - lo.toNat + first.toNat, b - lo.toNat + first.toNat) else none

/-- The same where only the letters of the first 128 characters have cases. -/
def foldAscii (s : CharSet) : CharSet :=
  ofRanges (s.ranges ++ s.shift 'a' 'z' 'A' ++ s.shift 'A' 'Z' 'a')

end Arbiter.Unicode.CharSet
