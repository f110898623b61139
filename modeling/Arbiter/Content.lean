import Arbiter.Json.Basic

/-! What a text holds before it is known what is expected in each place: a JSON value, but whose mappings may
have any keys, and whose numbers tell whether a minus sign is before them. -/

namespace Arbiter

inductive Content where
  | null
  | bool (b : Bool)
  | natural (n : Nat)
  /-- A whole number with a minus sign, which may be zero. -/
  | signed (n : Int)
  | double (x : Binary64)
  | string (s : String)
  | array (items : List Content)
  | object (pairs : List (Content × Content))
  deriving Inhabited

namespace Content

mutual

def ofJson : Json → Content
  | .null => null
  | .bool b => bool b
  | .integer n => if n < 0 then signed n else natural n.toNat
  | .double x => double x
  | .string s => string s
  | .array items => array (ofItems items)
  | .object members => object (ofMembers members)

def ofItems : List Json → List Content
  | [] => []
  | x :: xs => ofJson x :: ofItems xs

def ofMembers : List (String × Json) → List (Content × Content)
  | [] => []
  | (k, v) :: rest => (string k, ofJson v) :: ofMembers rest

end

mutual

/-- The JSON value that it is. All keys must be texts. -/
def json? : Content → Option Json
  | null => some .null
  | bool b => some (.bool b)
  | natural n => some (.integer n)
  | signed n => some (.integer n)
  | double x => some (.double x)
  | string s => some (.string s)
  | array items => (jsonItems? items).map .array
  | object pairs => (jsonMembers? pairs).map .object

def jsonItems? : List Content → Option (List Json)
  | [] => some []
  | x :: xs => do return (← json? x) :: (← jsonItems? xs)

def jsonMembers? : List (Content × Content) → Option (List (String × Json))
  | [] => some []
  | (string k, v) :: rest => do return (k, ← json? v) :: (← jsonMembers? rest)
  | _ => none

end

mutual

theorem json?_ofJson : (j : Json) → (ofJson j).json? = some j
  | .null | .bool _ | .double _ | .string _ => by simp [ofJson, json?]
  | .integer n => by
    simp only [ofJson]
    split
    · simp [json?]
    · simp only [json?, Option.some.injEq, Json.integer.injEq]
      omega
  | .array items => by simp [ofJson, json?, jsonItems?_ofItems items]
  | .object members => by simp [ofJson, json?, jsonMembers?_ofMembers members]

theorem jsonItems?_ofItems : (items : List Json) → jsonItems? (ofItems items) = some items
  | [] => rfl
  | x :: xs => by simp [ofItems, jsonItems?, json?_ofJson x, jsonItems?_ofItems xs]

theorem jsonMembers?_ofMembers :
    (members : List (String × Json)) → jsonMembers? (ofMembers members) = some members
  | [] => rfl
  | (k, v) :: rest => by simp [ofMembers, jsonMembers?, json?_ofJson v, jsonMembers?_ofMembers rest]

end

end Content

end Arbiter
