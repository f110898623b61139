import Arbiter.Unicode.Segmentation

namespace Arbiter.Unicode.Property

/-- Names are compared without regard to case, blanks, dashes and low lines, and to a leading `is`. -/
def normalize (name : String) : String :=
  let cs := name.toList
  let squeeze (cs : List Char) : List Char :=
    (cs.filter fun c => c ≠ ' ' ∧ c ≠ '_' ∧ c ≠ '-' ∧ c.toNat < 128).map Char.toLower
  if (cs.take 2).map Char.toLower = ['i', 's'] then
    let rest := squeeze (cs.drop 2)
    if rest = ['c'] then "isc" else String.ofList rest
  else String.ofList (squeeze cs)

/-- What stands between letters without an end to the word, as far as case goes. -/
def caseIgnorable : CharSet :=
  .unionAll [categories ["mn", "me", "cf", "lm", "sk"], Segmentation.midLetter, Segmentation.midNumLet,
    .single '\'']

/-- A general category or a group of them. -/
def category? (name : String) : Option CharSet :=
  match name with
  | "any" => some .all
  | "assigned" => some unassigned.compl
  | "ascii" => some (.interval '\x00' '\x7f')
  | "l" | "letter" => some letter
  | "lc" | "casedletter" => some (categories ["ll", "lt", "lu"])
  | "m" | "mark" | "combiningmark" => some mark
  | "n" | "number" => some number
  | "p" | "punctuation" | "punct" => some punctuation
  | "s" | "symbol" => some symbol
  | "z" | "separator" => some separator
  | "c" | "other" => some other
  | "cn" | "unassigned" => some unassigned
  | _ => lookup? GeneralCategory.table name

def script? (name : String) : Option CharSet := lookup? Script.table name

/-- The characters of a script, and those of other scripts that are used with it. -/
def scriptExtension? (name : String) : Option CharSet :=
  (Script.table.find? (name ∈ ·.1)).bind fun row =>
    row.1.head?.map fun short =>
      let rows := ScriptExtension.table
      let shared := CharSet.ofLines (rows.flatMap (·.2))
      let used := rows.flatMap fun r => if short ∈ r.1 then r.2 else []
      .union (.diff (.ofLines row.2) shared) (.ofLines used)

/-- The characters that were there in a version of Unicode. -/
def age? (name : String) : Option CharSet :=
  let older := Age.table.takeWhile (name ∉ ·.1)
  match Age.table.drop older.length with
  | [] => none
  | row :: _ => some (.ofLines ((older ++ [row]).flatMap (·.2)))

def binary? (name : String) : Option CharSet :=
  match name with
  | "alpha" | "alphabetic" => some alphabetic
  | "upper" | "uppercase" => some uppercase
  | "lower" | "lowercase" => some lowercase
  | "cased" => some cased
  | "ci" | "caseignorable" => some caseIgnorable
  | "cwl" | "changeswhenlowercased" => some changesWhenLowercased
  | "cwu" | "changeswhenuppercased" => some changesWhenUppercased
  | "cwt" | "changeswhentitlecased" => some changesWhenTitlecased
  | "cwcf" | "changeswhencasefolded" => some changesWhenCasefolded
  | "cwcm" | "changeswhencasemapped" => some changesWhenCasemapped
  | "di" | "defaultignorablecodepoint" => some defaultIgnorable
  | "grext" | "graphemeextend" => some graphemeExtend
  | "grbase" | "graphemebase" => some graphemeBase
  | "math" => some math
  | "ids" | "idstart" => some idStart
  | "idc" | "idcontinue" => some idContinue
  | "xids" | "xidstart" => some xidStart
  | "xidc" | "xidcontinue" => some xidContinue
  | _ => lookup? BinaryProperty.table name

/-- A set by its own name. Where a property and a category go by one name, the category is meant. -/
def byName? (name : String) : Option CharSet :=
  let name := normalize name
  ((binary? name).or (category? name)).or (script? name)

/-- A set by a property and its value. -/
def byValue? (property value : String) : Option CharSet :=
  let value := normalize value
  match normalize property with
  | "gc" | "generalcategory" => category? value
  | "sc" | "script" => script? value
  | "scx" | "scriptextensions" => scriptExtension? value
  | "age" => age? value
  | "gcb" | "graphemeclusterbreak" => Segmentation.grapheme? value
  | "wb" | "wordbreak" => Segmentation.word? value
  | "sb" | "sentencebreak" => Segmentation.sentence? value
  | _ => none

end Arbiter.Unicode.Property
