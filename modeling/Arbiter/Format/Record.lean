import Arbiter.Json.Basic
import Arbiter.Number.Word

namespace Arbiter.Json

/-- An object of the fields that are there. -/
def record (fields : List (String × Option Json)) : Json :=
  .object (fields.filterMap fun f => f.2.map (f.1, ·))

/-- The members of an object. -/
def members? : Json → Option (List (String × Json))
  | object ms => some ms
  | _ => none

/-- A field, if it is there. Fails if it is given twice. -/
def field? (name : String) (ms : List (String × Json)) : Option (Option Json) :=
  match ms.filter (·.1 = name) with
  | [] => some none
  | [m] => some (some m.2)
  | _ => none

/-- A field that must be there. -/
def required (name : String) (read : Json → Option α) (ms : List (String × Json)) : Option α :=
  match field? name ms with
  | some (some v) => read v
  | _ => none

/-- A field that has a default. -/
def withDefault (name : String) (default : α) (read : Json → Option α) (ms : List (String × Json)) :
    Option α :=
  match field? name ms with
  | some none => some default
  | some (some v) => read v
  | none => none

/-- A field that may be absent or null. -/
def optional (name : String) (read : Json → Option α) (ms : List (String × Json)) :
    Option (Option α) :=
  match field? name ms with
  | some none => some none
  | some (some null) => some none
  | some (some v) => (read v).map some
  | none => none

def string? : Json → Option String
  | string s => some s
  | _ => none

def bool? : Json → Option Bool
  | bool b => some b
  | _ => none

def integer? : Json → Option Int
  | integer n => some n
  | _ => none

def int32? (j : Json) : Option Int32 := ((integer? j).filter (fitsSigned 32)).map .ofInt

/-- A natural number of 64 bits. -/
def natural? (j : Json) : Option Nat := ((integer? j).filter (fitsUnsigned 64)).map (·.toNat)

def array? (read : Json → Option α) : Json → Option (List α)
  | array items => items.mapM read
  | _ => none

/-- A string that is one of a few words. -/
def word? (ofWord? : String → Option α) (j : Json) : Option α := j.string?.bind ofWord?

/-- A list, left out when it is empty. -/
def unlessEmpty (toJson : α → Json) (xs : List α) : Option Json :=
  if xs.isEmpty then none else some (.array (xs.map toJson))

/-- A value that is null when it is absent. -/
def orNull (toJson : α → Json) : Option α → Json
  | none => .null
  | some x => toJson x

end Arbiter.Json
