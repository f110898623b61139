import Arbiter.Json.Basic
import Arbiter.Number.Numeral
import Arbiter.Number.Word

namespace Arbiter.Settings

/-- The value of a key in a table. What is not a table has none. -/
def valueAt (key : String) : Json → Option Json
  | .object ms => (ms.find? (·.1 = key)).map (·.2)
  | _ => none

/-- Sets a key of a table, which takes the place of what is not one. -/
def setAt (key : String) (v : Json) : Json → Json
  | .object ms => .object (Json.insertMember key v ms)
  | _ => .object [(key, v)]

mutual

/-- A value put over an older one. -/
def overlay (old : Json) : Json → Json
  | .object ms => overlayMembers old ms
  | v => v

def overlayMembers (old : Json) : List (String × Json) → Json
  | [] => old
  | (key, v) :: ms => overlayMembers (setAt key (overlay ((valueAt key old).getD (.object [])) v) old) ms

end

/-- A step of a path: a key of a table, or a place in a list, counted from the end if it is negative. -/
inductive Step where
  | key (name : String)
  | place (n : Int)
  deriving DecidableEq, Repr

/-- The items of a list. What is not a list has none. -/
def itemsOf : Json → List Json
  | .array items => items
  | _ => []

/-- Which item a place is, unless it lies before the first one. -/
def itemAt? (n : Int) (items : List Json) : Option Nat :=
  if 0 ≤ n then some n.toNat else if -n ≤ items.length then some (items.length - (-n).toNat) else none

/-- Sets an item of a list, which is filled up with nulls before it. -/
def setItem (i : Nat) (v : Json) (items : List Json) : Json :=
  .array ((items ++ List.replicate (i + 1 - items.length) Json.null).set i v)

/-- Puts a value at a path. -/
def overlayAt (old : Json) (v : Json) : List Step → Json
  | [] => old
  | [.key name] => overlayMembers old [(name, v)]
  | .key name :: path => setAt name (overlayAt ((valueAt name old).getD .null) v path) old
  | .place n :: path =>
    let items := itemsOf old
    match itemAt? n items with
    | none => old
    | some i => setItem i (if path.isEmpty then v else overlayAt (items[i]?.getD .null) v path) items

/-- The characters of a key that can be a step of a path. -/
def isStepChar (c : Char) : Bool := c.isAlphanum || c = ' ' || c = '_' || c = '-'

def keyStep? (cs : List Char) : Option (Step × List Char) :=
  let name := cs.takeWhile isStepChar
  if name.isEmpty then none else some (.key (String.ofList name), cs.dropWhile isStepChar)

/-- Reads a place up to its closing bracket. -/
def placeStep? (cs : List Char) : Option (Step × List Char) :=
  let isBlank (c : Char) := c = ' ' || c = '\t'
  let (negative, cs) := match cs.dropWhile isBlank with
    | '-' :: cs => (true, cs)
    | cs => (false, cs)
  let (digits, rest) := takeDigits cs
  let n : Int := Decimal.ofDigits digits
  let n := if negative then -n else n
  match rest.dropWhile isBlank with
  | ']' :: rest => if digits.isEmpty ∨ !fitsSigned 64 n then none else some (.place n, rest)
  | _ => none

/-- Reads the steps after the first, each behind a point or in brackets. -/
def moreSteps? : Nat → List Char → Option (List Step)
  | _, [] => some []
  | 0, _ => none
  | k + 1, c :: cs => do
    let (step, rest) ← if c = '.' then keyStep? cs else if c = '[' then placeStep? cs else none
    return step :: (← moreSteps? k rest)

/-- The steps of a path that a key spells, or else the key itself as the only one. -/
def pathOf (key : String) : List Step :=
  let steps? : Option (List Step) := do
    let (step, rest) ← keyStep? key.toList
    return step :: (← moreSteps? rest.length rest)
  steps?.getD [.key key]

/-- Puts a layer of keys over a table. -/
def addLayer (old : Json) (layer : List (String × Json)) : Json :=
  layer.foldl (fun table m => overlayAt table m.2 (pathOf m.1)) old

end Arbiter.Settings
