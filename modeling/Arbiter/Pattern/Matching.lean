import Arbiter.Pattern.Regex

/-! Where the matches of a regular expression end.

A set of places in a text is an ascending list. A match never ends before it starts, so there are no more
places to reach than the text has, and a repetition is settled after as many rounds. -/

namespace Arbiter.Pattern

namespace Places

def union : List Nat → List Nat → List Nat
  | [], qs => qs
  | ps, [] => ps
  | p :: ps, q :: qs =>
    if p < q then p :: union ps (q :: qs)
    else if q < p then q :: union (p :: ps) qs
    else p :: union ps qs
termination_by ps qs => ps.length + qs.length

/-- The places of the first set that are not in the second. -/
def diff : List Nat → List Nat → List Nat
  | [], _ => []
  | ps, [] => ps
  | p :: ps, q :: qs =>
    if p < q then p :: diff ps (q :: qs)
    else if q < p then diff (p :: ps) qs
    else diff ps qs
termination_by ps qs => ps.length + qs.length

/-- The places after exactly so many rounds. Once a round changes nothing, no later one does. -/
def exactly (next : List Nat → List Nat) : Nat → List Nat → List Nat
  | 0, ps => ps
  | n + 1, ps =>
    let qs := next ps
    if qs = ps then ps else exactly next n qs

/-- The places after so many rounds at most, of which these are seen and these new. -/
def within (next : List Nat → List Nat) : Nat → (seen new : List Nat) → List Nat
  | 0, seen, _ => seen
  | n + 1, seen, new =>
    let new := diff (next new) seen
    if new.isEmpty then seen else within next n (union seen new) new

end Places

namespace Regex

/-- The place before the character of that index. -/
def place (t : Array Char) (n : Nat) : Place := ⟨if n = 0 then none else t[n - 1]?, t[n]?⟩

/-- The places after one character that passes a test. -/
def step (t : Array Char) (test : Char → Bool) (ps : List Nat) : List Nat :=
  (ps.filter fun p => t[p]?.any test).map (· + 1)

/-- The rounds that a count asks for, of which no more than these matter. -/
def rounds (bound least : Nat) (most : Option Nat) (next : List Nat → List Nat) (ps : List Nat) :
    List Nat :=
  let ps := Places.exactly next (min least bound) ps
  match most with
  | none => Places.within next bound ps ps
  | some most => Places.within next (min (most - least) bound) ps ps

mutual

/-- Where matches end that start at one of these places. -/
def ends (t : Array Char) : Regex → List Nat → List Nat
  | empty, ps => ps
  | text cs, ps => cs.foldl (fun ps c => step t (· = c) ps) ps
  | set s, ps => step t s.has ps
  | look l, ps => ps.filter fun p => l.holds (place t p)
  | group _ a, ps => ends t a ps
  | seq as, ps => endsAll t as ps
  | alt as, ps => endsAny t as ps
  | times a least most, ps => rounds (t.size + 1) least most (ends t a) ps

def endsAll (t : Array Char) : List Regex → List Nat → List Nat
  | [], ps => ps
  | a :: as, ps => endsAll t as (ends t a ps)

def endsAny (t : Array Char) : List Regex → List Nat → List Nat
  | [], _ => []
  | a :: as, ps => Places.union (ends t a ps) (endsAny t as ps)

end

/-- Whether some part of a text is a match. -/
def occursIn (a : Regex) (text : String) : Bool :=
  let t := text.toList.toArray
  !(a.ends t (List.range (t.size + 1))).isEmpty

end Regex

end Arbiter.Pattern
