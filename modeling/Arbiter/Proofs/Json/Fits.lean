import Arbiter.Json.Tree

namespace Arbiter

section Lists

variable {read : β → Option α}

theorem mapM_map {write : α → β} {xs : List α} (h : ∀ x ∈ xs, read (write x) = some x) :
    (xs.map write).mapM read = some xs := by
  induction xs with
  | nil => rfl
  | cons x xs ih =>
    obtain ⟨hx, hxs⟩ := List.forall_mem_cons.1 h
    simp [List.mapM_cons, hx, ih hxs]

theorem exists_of_mapM {ys : List β} {xs : List α} (h : ys.mapM read = some xs) :
    ∀ x ∈ xs, ∃ y ∈ ys, read y = some x := by
  induction ys generalizing xs with
  | nil =>
    cases h
    simp
  | cons y ys ih =>
    simp only [List.mapM_cons, Option.bind_eq_bind, Option.bind_eq_some_iff, Option.pure_def,
      Option.some.injEq] at h
    obtain ⟨x, hx, xs, hxs, rfl⟩ := h
    refine List.forall_mem_cons.2 ⟨⟨y, List.mem_cons_self, hx⟩, fun x hx => ?_⟩
    obtain ⟨z, hz, hread⟩ := ih hxs x hx
    exact ⟨z, List.mem_cons_of_mem _ hz, hread⟩

end Lists

namespace Json

/-- What holds of a value whenever it holds of all that stands in it holds of every value. -/
@[elab_as_elim]
theorem induct {motive : Json → Prop} (null : motive .null) (bool : ∀ b, motive (.bool b))
    (integer : ∀ n, motive (.integer n)) (double : ∀ x, motive (.double x))
    (string : ∀ s, motive (.string s))
    (array : ∀ items, (∀ x ∈ items, motive x) → motive (.array items))
    (object : ∀ members, (∀ m ∈ members, motive m.2) → motive (.object members)) (j : Json) : motive j :=
  @Json.rec motive (fun items => ∀ x ∈ items, motive x) (fun members => ∀ m ∈ members, motive m.2)
    (fun m => motive m.2) null bool integer double string array object
    nofun (fun _ _ hx hxs => List.forall_mem_cons.2 ⟨hx, hxs⟩)
    nofun (fun _ _ hm hms => List.forall_mem_cons.2 ⟨hm, hms⟩) (fun _ _ hx => hx) j

/-- Whether a number is one that a numeral stands for: a whole one of 64 bits, signed or not, or a finite
double. -/
def hasNumeral : Json → Bool
  | integer n => fitsSigned 64 n || fitsUnsigned 64 n
  | double x => x.isFinite
  | _ => false

mutual

/-- The numbers in a value. -/
def numbers : Json → List Json
  | integer n => [integer n]
  | double x => [double x]
  | array items => numbersOfItems items
  | object members => numbersOfMembers members
  | null | bool _ | string _ => []

def numbersOfItems : List Json → List Json
  | [] => []
  | x :: xs => numbers x ++ numbersOfItems xs

def numbersOfMembers : List (String × Json) → List Json
  | [] => []
  | (_, x) :: xs => numbers x ++ numbersOfMembers xs

end

mutual

/-- How many arrays and objects stand in one another. -/
def depth : Json → Nat
  | array items => depthOfItems items + 1
  | object members => depthOfMembers members + 1
  | null | bool _ | integer _ | double _ | string _ => 0

def depthOfItems : List Json → Nat
  | [] => 0
  | x :: xs => max (depth x) (depthOfItems xs)

def depthOfMembers : List (String × Json) → Nat
  | [] => 0
  | (_, x) :: xs => max (depth x) (depthOfMembers xs)

end

/-- Whether all numbers in a value are of a kind, and no more arrays and objects stand in one another than
there is room for. -/
structure FitsWith (p : Json → Prop) (room : Nat) (j : Json) : Prop where
  numbers : ∀ v ∈ j.numbers, p v
  depth : j.depth ≤ room

/-- Whether a value can be read where so many arrays and objects may be open at once. -/
abbrev Fits (room : Nat) (j : Json) : Prop := FitsWith (·.hasNumeral) room j

theorem mem_numbersOfItems {v : Json} (items : List Json) :
    v ∈ numbersOfItems items ↔ ∃ x ∈ items, v ∈ x.numbers := by
  induction items with
  | nil => simp [numbersOfItems]
  | cons x xs ih => simp [numbersOfItems, ih]

theorem depthOfItems_le {room : Nat} (items : List Json) :
    depthOfItems items ≤ room ↔ ∀ x ∈ items, x.depth ≤ room := by
  induction items with
  | nil => simp [depthOfItems]
  | cons x xs ih => simp only [depthOfItems, Nat.max_le, ih, List.forall_mem_cons]

theorem numbersOfMembers_eq (members : List (String × Json)) :
    numbersOfMembers members = numbersOfItems (members.map (·.2)) := by
  induction members with
  | nil => rfl
  | cons m ms ih => simp only [numbersOfMembers, ih, List.map_cons, numbersOfItems]

theorem depthOfMembers_eq (members : List (String × Json)) :
    depthOfMembers members = depthOfItems (members.map (·.2)) := by
  induction members with
  | nil => rfl
  | cons m ms ih => simp only [depthOfMembers, ih, List.map_cons, depthOfItems]

/-- An object has the numbers and the depth of the array of its values. -/
theorem numbers_object (members : List (String × Json)) :
    (object members).numbers = (array (members.map (·.2))).numbers :=
  numbersOfMembers_eq members

theorem depth_object (members : List (String × Json)) :
    (object members).depth = (array (members.map (·.2))).depth :=
  congrArg (· + 1) (depthOfMembers_eq members)

section

variable {p q : Json → Prop} {room : Nat}

theorem forall_numbers_array {items : List Json} :
    (∀ v ∈ (array items).numbers, p v) ↔ ∀ x ∈ items, ∀ v ∈ x.numbers, p v := by
  simp only [numbers, mem_numbersOfItems]
  exact ⟨fun h x hx v hv => h v ⟨x, hx, hv⟩, fun h v ⟨x, hx, hv⟩ => h x hx v hv⟩

theorem forall_numbers_object {members : List (String × Json)} :
    (∀ v ∈ (object members).numbers, p v) ↔ ∀ m ∈ members, ∀ v ∈ m.2.numbers, p v := by
  rw [numbers_object, forall_numbers_array, List.forall_mem_map]

theorem FitsWith.imp {j : Json} (hpq : ∀ v, p v → q v) (h : j.FitsWith p room) : j.FitsWith q room :=
  ⟨fun v hv => hpq v (h.numbers v hv), h.depth⟩

@[simp] theorem fits_null : FitsWith p room null := ⟨by simp [numbers], by simp [Json.depth]⟩

@[simp] theorem fits_bool (b : Bool) : FitsWith p room (bool b) :=
  ⟨by simp [numbers], by simp [Json.depth]⟩

@[simp] theorem fits_string (s : String) : FitsWith p room (string s) :=
  ⟨by simp [numbers], by simp [Json.depth]⟩

@[simp] theorem fits_integer {n : Int} : Fits room (integer n) ↔ (integer n).hasNumeral :=
  ⟨fun h => h.numbers _ (by simp [numbers]), fun h => ⟨by simpa [numbers], by simp [Json.depth]⟩⟩

@[simp] theorem fits_double {x : Binary64} : Fits room (double x) ↔ x.isFinite :=
  ⟨fun h => h.numbers (double x) (by simp [numbers]), fun h =>
    ⟨by simpa [numbers, hasNumeral], by simp [Json.depth]⟩⟩

/-- A number is all there is of itself. -/
theorem fits_of_hasNumeral {v : Json} (h : v.hasNumeral) (hv : p v) : FitsWith p room v := by
  cases v with
  | integer | double => exact ⟨by simpa [numbers] using hv, by simp [Json.depth]⟩
  | _ => cases h

theorem fits_array {items : List Json} :
    FitsWith p room (array items) ↔ 0 < room ∧ ∀ x ∈ items, x.FitsWith p (room - 1) := by
  constructor
  · rintro ⟨hn, hd⟩
    simp only [Json.depth] at hd
    have hd : depthOfItems items ≤ room - 1 := by omega
    exact ⟨by omega, fun x hx => ⟨forall_numbers_array.1 hn x hx, (depthOfItems_le items).1 hd x hx⟩⟩
  · rintro ⟨hroom, h⟩
    have hd : depthOfItems items ≤ room - 1 := (depthOfItems_le items).2 fun x hx => (h x hx).depth
    exact ⟨forall_numbers_array.2 fun x hx => (h x hx).numbers, by simp only [Json.depth]; omega⟩

theorem fits_object {members : List (String × Json)} :
    FitsWith p room (object members) ↔ 0 < room ∧ ∀ m ∈ members, m.2.FitsWith p (room - 1) := by
  have harray : FitsWith p room (object members) ↔ FitsWith p room (array (members.map (·.2))) :=
    ⟨fun h => ⟨numbers_object members ▸ h.numbers, depth_object members ▸ h.depth⟩,
      fun h => ⟨(numbers_object members).symm ▸ h.numbers, (depth_object members).symm ▸ h.depth⟩⟩
  rw [harray, fits_array, List.forall_mem_map]

end

namespace Tree

mutual

/-- The tree of a value. -/
def ofJson : Json → Tree
  | .null => null
  | .bool b => bool b
  | .integer n => number (some (.integer n))
  | .double x => number (some (.double x))
  | .string s => string (some s)
  | .array items => array (ofItems items)
  | .object members => object (ofMembers members)

def ofItems : List Json → List Tree
  | [] => []
  | x :: xs => ofJson x :: ofItems xs

def ofMembers : List (String × Json) → List (Option String × Tree)
  | [] => []
  | (k, x) :: rest => (some k, ofJson x) :: ofMembers rest

end

theorem ofItems_eq (items : List Json) : ofItems items = items.map ofJson := by
  induction items with
  | nil => rfl
  | cons x xs ih => rw [ofItems, ih, List.map_cons]

theorem ofMembers_eq (members : List (String × Json)) :
    ofMembers members = members.map fun m => (some m.1, ofJson m.2) := by
  induction members with
  | nil => rfl
  | cons m ms ih => rw [ofMembers, ih, List.map_cons]

theorem jsonItems?_eq (room : Nat) (ts : List Tree) : jsonItems? room ts = ts.mapM (json? room) := by
  induction ts with
  | nil => rfl
  | cons t ts ih => rw [jsonItems?, ih, List.mapM_cons]

/-- Reads a member. -/
def member? (room : Nat) (m : Option String × Tree) : Option (String × Json) := do
  return (← m.1, ← json? room m.2)

theorem member?_eq_some {room : Nat} {m : Option String × Tree} {f : String × Json} :
    member? room m = some f ↔ m.1 = some f.1 ∧ m.2.json? room = some f.2 := by
  obtain ⟨name, j⟩ := f
  simp [member?, Option.bind_eq_some_iff]

theorem jsonMembers?_eq (room : Nat) (ts : List (Option String × Tree)) :
    jsonMembers? room ts = ts.mapM (member? room) := by
  induction ts with
  | nil => rfl
  | cons t ts ih =>
    rw [jsonMembers?, ih, List.mapM_cons]
    simp [member?, Option.bind_assoc]

/-- The tree of a value is read as that value where there is room. -/
theorem json?_ofJson {j : Json} {room : Nat} (h : j.Fits room) : (ofJson j).json? room = some j := by
  induction j using Json.induct generalizing room with
  | null | bool | integer | double | string => rfl
  | array items ih =>
    obtain ⟨hroom, h⟩ := fits_array.1 h
    have hitems := mapM_map fun x hx => ih x hx (h x hx)
    simp [ofJson, json?, Nat.ne_of_gt hroom, jsonItems?_eq, ofItems_eq, hitems]
  | object members ih =>
    obtain ⟨hroom, h⟩ := fits_object.1 h
    have hread : ∀ m ∈ members, member? (room - 1) (some m.1, ofJson m.2) = some m := by
      intro m hm
      simp [member?, ih m hm (h m hm)]
    simp [ofJson, json?, Nat.ne_of_gt hroom, jsonMembers?_eq, ofMembers_eq, mapM_map hread]

end Tree

end Json

end Arbiter
