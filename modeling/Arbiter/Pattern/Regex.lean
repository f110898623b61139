import Arbiter.Pattern.Look

/-! Regular expressions in a form that brings together what is written apart: texts that follow each other
are one text, and branches of one character each are one set. -/

namespace Arbiter.Pattern

open Unicode (CharSet)

inductive Regex where
  | empty
  | text (cs : List Char)
  /-- One character of a set. No text matches an empty set. -/
  | set (s : CharSet)
  | look (l : Look)
  /-- A part whose match is noted under a number. -/
  | group (number : Nat) (a : Regex)
  | seq (as : List Regex)
  | alt (as : List Regex)
  /-- So many times at least, and at most if there is a bound. -/
  | times (a : Regex) (least : Nat) (most : Option Nat)
  deriving Inhabited

namespace Regex

mutual

def same : Regex → Regex → Bool
  | empty, empty => true
  | text cs, text ds => cs = ds
  | set s, set t => s = t
  | look l, look m => l = m
  | group n a, group k b => n = k && same a b
  | seq as, seq bs | alt as, alt bs => sameAll as bs
  | times a least most, times b least' most' => least = least' && most = most' && same a b
  | _, _ => false

def sameAll : List Regex → List Regex → Bool
  | [], [] => true
  | a :: as, b :: bs => same a b && sameAll as bs
  | _, _ => false

end

mutual

/-- Whether an edge of words is looked for whose characters go beyond ASCII. -/
def hasWideEdge : Regex → Bool
  | empty | text _ | set _ => false
  | look l => l.word?.any (!·.isAscii)
  | group _ a | times a _ _ => hasWideEdge a
  | seq as | alt as => anyWideEdge as

def anyWideEdge : List Regex → Bool
  | [] => false
  | a :: as => hasWideEdge a || anyWideEdge as

end

mutual

/-- Whether matches are always empty. -/
def isHollow : Regex → Bool
  | empty | look _ => true
  | text _ | set _ => false
  | group _ a | times a _ _ => isHollow a
  | seq as | alt as => allHollow as

def allHollow : List Regex → Bool
  | [] => true
  | a :: as => isHollow a && allHollow as

end

mutual

/-- A number of characters that every match has at least; none where some branch matches nothing. -/
def width? : Regex → Option Nat
  | empty | look _ => some 0
  | text cs => some cs.length
  | set s => if s.isEmpty then none else some 1
  | group _ a => width? a
  | seq as => widthAll? as
  | alt as => widthAny? as
  | times a least _ => (width? a).map (· * least)

def widthAll? : List Regex → Option Nat
  | [] => some 0
  | a :: as =>
    match width? a, widthAll? as with
    | some m, some n => some (m + n)
    | _, _ => none

def widthAny? : List Regex → Option Nat
  | [] => none
  | [a] => width? a
  | a :: as =>
    match width? a, widthAny? as with
    | some m, some n => some (min m n)
    | _, _ => none

end

mutual

/-- Whether each match starts with a look like this one, or ends with one. -/
def isBoundBy (l : Look) (atEnd : Bool) : Regex → Bool
  | look m => l = m
  | group _ a => isBoundBy l atEnd a
  | seq as => if atEnd then (lastBoundBy l as).1 else firstBoundBy l as
  | alt as => allBoundBy l atEnd as
  | times a least _ => 0 < least && isBoundBy l atEnd a
  | _ => false

def allBoundBy (l : Look) (atEnd : Bool) : List Regex → Bool
  | [] => true
  | a :: as => isBoundBy l atEnd a && allBoundBy l atEnd as

def firstBoundBy (l : Look) : List Regex → Bool
  | [] => false
  | a :: as => isBoundBy l false a || (isHollow a && firstBoundBy l as)

/-- The second part tells whether all of the list is hollow. -/
def lastBoundBy (l : Look) : List Regex → Bool × Bool
  | [] => (false, true)
  | a :: as =>
    let (found, hollow) := lastBoundBy l as
    (found || (hollow && isBoundBy l true a), hollow && isHollow a)

end

def ofSet (s : CharSet) : Regex :=
  match s.only? with
  | some c => text [c]
  | none => set s

/-- A repetition of what is always empty makes a difference once at most. -/
def repeated (a : Regex) (least : Nat) (most : Option Nat) : Regex :=
  let (least, most) := if isHollow a then (min least 1, some (min (most.getD 1) 1)) else (least, most)
  if least = 0 ∧ most = some 0 then empty
  else if least = 1 ∧ most = some 1 then a
  else times a least most

def factors : Regex → List Regex
  | seq as => as
  | empty => []
  | a => [a]

/-- Puts an expression before others, joined to the first if both are texts. -/
def prepend (a : Regex) (as : List Regex) : List Regex :=
  match a, as with
  | text cs, text ds :: as => text (cs ++ ds) :: as
  | a, as => a :: as

def concat (as : List Regex) : Regex :=
  match (as.flatMap factors).foldr prepend [] with
  | [] => empty
  | [a] => a
  | as => seq as

def branches : Regex → List Regex
  | alt as => as
  | a => [a]

/-- The set of an expression that matches one character. -/
def toSet? : Regex → Option CharSet
  | text [c] => some (.single c)
  | set s => some s
  | _ => none

def commonPrefix : List Regex → List Regex → List Regex
  | a :: as, b :: bs => if same a b then a :: commonPrefix as bs else []
  | _, _ => []

def seq? : Regex → Option (List Regex)
  | seq as => some as
  | _ => none

/-- The factors that all branches start with, if each is a sequence. -/
def sharedPrefix (as : List Regex) : List Regex :=
  match as.mapM seq? with
  | some (s :: ss) => ss.foldl commonPrefix s
  | _ => []

/-- One of some branches, which are no choices themselves. -/
def anyOf (as : List Regex) : Regex :=
  match as, as.mapM toSet? with
  | [a], _ => a
  | _, some sets => ofSet (.unionAll sets)
  | as, none => alt as

/-- Factors that all branches start with stand before the choice. -/
def choice (as : List Regex) : Regex :=
  let as := as.flatMap branches
  match sharedPrefix as with
  | [] => anyOf as
  | shared =>
    let rest := as.flatMap fun a => branches (concat ((factors a).drop shared.length))
    concat (shared ++ [anyOf rest])

end Regex

end Arbiter.Pattern
