import Arbiter.File
import Arbiter.Format.Settings
import Arbiter.Json.Tree
import Arbiter.Number.Shortest
import Arbiter.Settings.Basic
import Arbiter.Settings.Layers
import Arbiter.Shape.Basic
import Arbiter.Yaml.Node

namespace Arbiter.Settings

/-- A whole number beyond 64 signed bits counts as a double. -/
def number (n : Int) : Json := if fitsSigned 64 n then .integer n else .double (.ofInt n)

/-- A decimal whole number with or without a sign. -/
def signedInteger? (base : Nat) (cs : List Char) : Option Int :=
  let (negative, digits) := Numeral.signed cs
  match Numeral.natural? base digits with
  | some n =>
    let n : Int := if negative then -n else n
    if fitsSigned 64 n then some n else none
  | none => none

/-- What a YAML file of settings holds. -/
inductive Entry where
  | null
  | bool (b : Bool)
  | integer (n : Int)
  /-- A number by its text. -/
  | real (s : String)
  | string (s : String)
  | array (items : List Entry)
  | table (pairs : List (Entry × Entry))
  /-- A scalar that is not of the type its tag tells. -/
  | wrong
  deriving Inhabited

namespace Entry

/-- The words for doubles that are not written in digits. -/
def isDoubleWord (s : String) : Bool :=
  s ∈ [
    ".inf", ".Inf", ".INF", "+.inf", "+.Inf", "+.INF", "-.inf", "-.Inf", "-.INF", ".nan", "NaN", ".NAN"]

def isReal (s : String) : Bool := isDoubleWord s || (Binary64.ofText? s).isSome

/-- What a plain scalar without a tag stands for. -/
def ofPlain (s : String) : Entry :=
  let integer? := match s.toList with
    | '0' :: 'x' :: ds => signedInteger? 16 ds
    | '0' :: 'o' :: ds => signedInteger? 8 ds
    | '+' :: ds => signedInteger? 10 ds
    | ds => signedInteger? 10 ds
  match integer?, s with
  | some n, _ => integer n
  | none, "~" | none, "null" => null
  | none, "true" => bool true
  | none, "false" => bool false
  | none, s => if isReal s then real s else string s

/-- What a plain scalar with a standard tag stands for. -/
def ofTag (tag s : String) : Entry :=
  if tag = Yaml.Tag.standard "bool" then
    if s = "true" then bool true else if s = "false" then bool false else wrong
  else if tag = Yaml.Tag.standard "int" then ((signedInteger? 10 s.toList).map integer).getD wrong
  else if tag = Yaml.Tag.standard "float" then if isReal s then real s else wrong
  else if tag = Yaml.Tag.standard "null" then if s = "~" ∨ s = "null" then null else wrong
  else string s

def isWrong : Entry → Bool
  | wrong => true
  | _ => false

/-- Brings keys and values together. What is no key is passed over, so that its value is taken for one. -/
def pair : (key : Option Entry) → List Entry → List (Entry × Entry)
  | _, [] => []
  | none, e :: es => pair (if e.isWrong then none else some e) es
  | some key, e :: es => (key, e) :: pair none es

mutual

def ofNode : Yaml.Node → Entry
  | .scalar none isPlain s => if isPlain then ofPlain s else string s
  | .scalar (some tag) isPlain s => if isPlain then ofTag tag s else string s
  | .sequence _ items => array (ofNodes items)
  | .mapping _ pairs => table (pair none (ofPairs pairs))
  | .aliasOf _ => wrong

def ofNodes : List Yaml.Node → List Entry
  | [] => []
  | n :: ns => ofNode n :: ofNodes ns

def ofPairs : List (Yaml.Node × Yaml.Node) → List Entry
  | [] => []
  | (k, v) :: rest => ofNode k :: ofNode v :: ofPairs rest

end

mutual

/-- The value of an entry; some words for doubles have none. -/
def json? : Entry → Option Json
  | null | wrong => some .null
  | bool b => some (.bool b)
  | integer n => some (.integer n)
  | real s => (Binary64.ofText? s).map .double
  | string s => some (.string s)
  | array items => (jsonItems? items).map .array
  | table pairs => (jsonMembers? [] pairs).map .object

def jsonItems? : List Entry → Option (List Json)
  | [] => some []
  | e :: es => do return (← json? e) :: (← jsonItems? es)

/-- Only texts are keys, and the last value of a key counts. -/
def jsonMembers? (before : List (String × Json)) : List (Entry × Entry) → Option (List (String × Json))
  | [] => some before
  | (string k, e) :: rest => do jsonMembers? (Json.insertMember k (← json? e) before) rest
  | _ :: rest => jsonMembers? before rest

end

end Entry

/-- The table that a value is. What is not one counts as empty. -/
def table (j : Json) : List (String × Json) := (j.members?).getD []

/-- The table that a settings file holds. Only JSON and YAML files are read. -/
def fileTable? (f : File) : Option (List (String × Json)) := do
  let text ← f.text
  match f.extension with
  | "json" => return table (← Json.ofText? text).free
  | "yaml" | "yml" =>
    match ← Yaml.Graph.ofText? .settings text with
    | none => return []
    | some g => return table (← (Entry.ofNode g.root).json?)
  | _ => none

/-- Variables of settings begin with this, in any case. -/
def variableMark : List Char := ['p', 'd', 'p', '_', '_']

/-- Two low lines divide the steps of a path. -/
def pointed : List Char → List Char
  | '_' :: '_' :: cs => '.' :: pointed cs
  | c :: cs => c :: pointed cs
  | [] => []

/-- A variable's value, which may look like a boolean or a number. -/
def ofVariable (s : String) : Json :=
  if s.toLower = "true" then .bool true
  else if s.toLower = "false" then .bool false
  else
    match signedInteger? 10 s.toList, Binary64.ofText? s with
    | some n, _ => .integer n
    | none, some x => .double x
    | none, none => .string s

/-- The settings among the variables of the environment. -/
def environmentTable (environment : List (String × String)) : List (String × Json) :=
  environment.filterMap fun (name, value) =>
    let name := name.toLower.toList
    if variableMark.isPrefixOf name then
      some (String.ofList (pointed (name.drop variableMark.length)), ofVariable value)
    else none

def looseBool? : Json → Option Bool
  | .bool b => some b
  | .integer n => some (n ≠ 0)
  | .double x => some !x.isZero
  | .string s =>
    if s.toLower ∈ ["1", "true", "on", "yes"] then some true
    else if s.toLower ∈ ["0", "false", "off", "no"] then some false
    else none
  | _ => none

/-- A natural number of 64 bits; doubles are rounded. -/
def looseNatural? : Json → Option Nat
  | .bool b => some b.toNat
  | .integer n =>
    match number n with
    | .double x => some x.roundToWord
    | _ => if 0 ≤ n then some n.toNat else none
  | .double x => some x.roundToWord
  | .string s =>
    if s.toLower ∈ ["true", "on", "yes"] then some 1
    else if s.toLower ∈ ["false", "off", "no"] then some 0
    else
      let digits := match s.toList with
        | '+' :: ds => ds
        | ds => ds
      (Numeral.natural? 10 digits).filter (fitsUnsigned 64 ·)
  | _ => none

def looseText? : Json → Option String
  | .bool b => some (if b then "true" else "false")
  | .integer n =>
    match number n with
    | .double x => some (NumberLayout.positional.write x)
    | _ => some (toString n)
  | .double x => some (NumberLayout.positional.write x)
  | .string s => some s
  | _ => none

/-- An algorithm by its name, or as the one key of a table. -/
def looseAlgorithm? : Json → Option PolicyAlgorithm
  | .string s | .object [(s, _)] => PolicyAlgorithm.ofUrn? s
  | _ => none

/-- Values stand for each other where they can. -/
def Reading.loose : Reading := ⟨looseBool?, looseNatural?, looseText?, looseAlgorithm?⟩

/-- A section that is given as a list holds its fields in order. -/
def sectionTable (k : RecordKind) : Json → Json
  | .array items => .object ((k.fields.map (·.1)).zip items)
  | j => j

/-- The settings with sections that are tables. -/
def withSections : Json → Json
  | .object ms => .object <| ms.map fun (name, v) =>
    match RecordKind.settings.field? name with
    | some (.record k) => (name, sectionTable k v)
    | _ => (name, v)
  | j => j

/-- Loads settings from a file, if one is given, and the environment. Those that are loaded have no
flaw. -/
def load (file : Option File) (environment : List (String × String)) : Except Error Settings :=
  let fileLayer? := match file with
    | none => some []
    | some f => fileTable? f
  match fileLayer?.bind fun layer =>
      ofJsonBy? .loose (withSections (addLayer (addLayer (.object []) layer) (environmentTable environment))) with
  | none => .error (.config "the settings cannot be read")
  | some s =>
    match s.flaw? with
    | none => .ok s
    | some f => .error f.error

end Arbiter.Settings
