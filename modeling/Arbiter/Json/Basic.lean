import Arbiter.Number.Binary64

namespace Arbiter

inductive Json where
  | null
  | bool (b : Bool)
  | integer (n : Int)
  | double (x : Binary64)
  | string (s : String)
  | array (items : List Json)
  | object (members : List (String × Json))
  deriving Inhabited

namespace Json

mutual

def decEq : (a b : Json) → Decidable (a = b)
  | null, null => isTrue rfl
  | bool a, bool b => if h : a = b then isTrue (by rw [h]) else isFalse (by simp [h])
  | integer a, integer b => if h : a = b then isTrue (by rw [h]) else isFalse (by simp [h])
  | double a, double b => if h : a = b then isTrue (by rw [h]) else isFalse (by simp [h])
  | string a, string b => if h : a = b then isTrue (by rw [h]) else isFalse (by simp [h])
  | array a, array b =>
    match decEqItems a b with
    | isTrue h => isTrue (by rw [h])
    | isFalse h => isFalse (by simp [h])
  | object a, object b =>
    match decEqMembers a b with
    | isTrue h => isTrue (by rw [h])
    | isFalse h => isFalse (by simp [h])
  | null, bool _ | null, integer _ | null, double _ | null, string _ | null, array _
  | null, object _ | bool _, null | bool _, integer _ | bool _, double _ | bool _, string _
  | bool _, array _ | bool _, object _ | integer _, null | integer _, bool _
  | integer _, double _ | integer _, string _ | integer _, array _ | integer _, object _
  | double _, null | double _, bool _ | double _, integer _ | double _, string _
  | double _, array _ | double _, object _ | string _, null | string _, bool _
  | string _, integer _ | string _, double _ | string _, array _ | string _, object _
  | array _, null | array _, bool _ | array _, integer _ | array _, double _
  | array _, string _ | array _, object _ | object _, null | object _, bool _
  | object _, integer _ | object _, double _ | object _, string _ | object _, array _ =>
    isFalse (by simp)

def decEqItems : (a b : List Json) → Decidable (a = b)
  | [], [] => isTrue rfl
  | [], _ :: _ | _ :: _, [] => isFalse (by simp)
  | x :: xs, y :: ys =>
    match decEq x y, decEqItems xs ys with
    | isTrue h, isTrue h' => isTrue (by rw [h, h'])
    | isFalse h, _ => isFalse (by simp [h])
    | _, isFalse h => isFalse (by simp [h])

def decEqMembers : (a b : List (String × Json)) → Decidable (a = b)
  | [], [] => isTrue rfl
  | [], _ :: _ | _ :: _, [] => isFalse (by simp)
  | (k, x) :: xs, (l, y) :: ys =>
    if hk : k = l then
      match decEq x y, decEqMembers xs ys with
      | isTrue h, isTrue h' => isTrue (by rw [hk, h, h'])
      | isFalse h, _ => isFalse (by simp [h])
      | _, isFalse h => isFalse (by simp [h])
    else isFalse (by simp [hk])

end

instance : DecidableEq Json := decEq

/-- Puts a member into its place among sorted ones, over an earlier one of that name. -/
def insertMember (k : String) (v : Json) : List (String × Json) → List (String × Json)
  | [] => [(k, v)]
  | (l, w) :: rest =>
    if k = l then (k, v) :: rest
    else if k < l then (k, v) :: (l, w) :: rest
    else (l, w) :: insertMember k v rest

mutual

/-- The stored form: members sorted by name, the last of a name counting, and no double that JSON
cannot write. -/
def free : Json → Json
  | double x => if x.isFinite then double x else null
  | array items => array (freeItems items)
  | object members => object (freeMembers [] members)
  | null => null
  | bool b => bool b
  | integer n => integer n
  | string s => string s

def freeItems : List Json → List Json
  | [] => []
  | x :: xs => free x :: freeItems xs

def freeMembers (before : List (String × Json)) : List (String × Json) → List (String × Json)
  | [] => before
  | (k, v) :: rest => freeMembers (insertMember k (free v) before) rest

end

mutual

/-- Equality of values, doubles compared as numbers. -/
def same : Json → Json → Bool
  | null, null => true
  | bool a, bool b => a = b
  | integer a, integer b => a = b
  | double a, double b => a.same b
  | string a, string b => a = b
  | array a, array b => sameItems a b
  | object a, object b => sameMembers a b
  | _, _ => false

def sameItems : List Json → List Json → Bool
  | [], [] => true
  | x :: xs, y :: ys => same x y && sameItems xs ys
  | _, _ => false

def sameMembers : List (String × Json) → List (String × Json) → Bool
  | [], [] => true
  | (k, x) :: xs, (l, y) :: ys => k = l && same x y && sameMembers xs ys
  | _, _ => false

end

/-- The value as a double, if it is a number. -/
def toDouble? : Json → Option Binary64
  | integer n => some (.ofInt n)
  | double x => some x
  | _ => none

end Json

end Arbiter
