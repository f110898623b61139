import Arbiter.Unicode.Age
import Arbiter.Unicode.BinaryProperty
import Arbiter.Unicode.CaseFolding
import Arbiter.Unicode.CharSet
import Arbiter.Unicode.GeneralCategory
import Arbiter.Unicode.Script
import Arbiter.Unicode.ScriptExtension

namespace Arbiter.Unicode

def lookup? (table : List (List String × List String)) (name : String) : Option CharSet :=
  (table.find? (name ∈ ·.1)).map fun row => CharSet.ofLines row.2

def category (name : String) : CharSet := (lookup? GeneralCategory.table name).getD .nothing

def categories (names : List String) : CharSet := .unionAll (names.map category)

def binary (name : String) : CharSet := (lookup? BinaryProperty.table name).getD .nothing

def letter : CharSet := categories ["ll", "lm", "lo", "lt", "lu"]

def mark : CharSet := categories ["mc", "me", "mn"]

def number : CharSet := categories ["nd", "nl", "no"]

def punctuation : CharSet := categories ["pc", "pd", "pe", "pf", "pi", "po", "ps"]

def symbol : CharSet := categories ["sc", "sk", "sm", "so"]

def separator : CharSet := categories ["zl", "zp", "zs"]

def other : CharSet :=
  CharSet.compl (.unionAll [letter, mark, number, punctuation, symbol, separator])

def unassigned : CharSet := .diff other (categories ["cc", "cf", "co"])

def uppercase : CharSet := .union (category "lu") (binary "oupper")

def lowercase : CharSet := .union (category "ll") (binary "olower")

def alphabetic : CharSet :=
  .unionAll [letter, category "nl", uppercase, lowercase, binary "oalpha"]

def cased : CharSet := .unionAll [uppercase, lowercase, category "lt"]

/-- The classes of characters that differ only in case. -/
def foldClasses : List (List Nat) :=
  CaseFolding.classes.flatMap fun line =>
    (line.splitOn " ").map fun s =>
      (s.splitOn "-").map fun n => n.toList.foldl (fun n c => n * 16 + CharSet.hexDigit c) 0

/-- The characters that differ from another only in case. -/
def folding : CharSet := .ofRanges (foldClasses.flatten.map fun n => (n, n))

def changesWhenLowercased : CharSet :=
  .union (.inter (.union uppercase (category "lt")) folding) (.ofLines ["130"])

/-- What has no upper case of one character changes too. -/
def changesWhenUppercased : CharSet :=
  .union (.inter (.union lowercase (category "lt")) folding) <|
    .ofLines ["131 149 1F0 587 1E96-1E9A 1F50 1F52 1F54 1F56 1FB2 1FB4 1FB6-1FB7 1FC2 1FC4 1FC6-1FC7",
      "1FD2 1FD6-1FD7 1FE2 1FE4 1FE6-1FE7 1FF2 1FF4 1FF6-1FF7 FB00-FB04 FB13-FB17"]

/-- A title is in upper case, but for the pairs of letters that have a title case of their own. Georgian
has none. -/
def changesWhenTitlecased : CharSet :=
  .union (.diff changesWhenUppercased (.union (category "lt") (.ofLines ["10D0-10FA 10FD-10FF"])))
    (.ofLines ["1C4 1C7 1CA 1F1"])

/-- Cherokee is folded to upper case, and all else to lower case. -/
def changesWhenCasefolded : CharSet :=
  .union (.diff changesWhenLowercased (.ofLines ["13A0-13F5"])) <|
    .ofLines ["B5 DF 149 17F 345 3C2 3D0-3D1 3D5-3D6 3F0-3F1 3F5 587 13F8-13FD 1C80-1C88 1E9A-1E9B",
      "1F80-1F87 1F90-1F97 1FA0-1FA7 1FB2-1FB4 1FB7 1FC2-1FC4 1FC7 1FF2-1FF4 1FF7 AB70-ABBF",
      "FB00-FB06 FB13-FB17"]

def changesWhenCasemapped : CharSet :=
  .unionAll [changesWhenLowercased, changesWhenUppercased, changesWhenTitlecased]

def digit : CharSet := category "nd"

def blank : CharSet := binary "wspace"

/-- The characters of words. -/
def word : CharSet := .unionAll [alphabetic, mark, digit, category "pc", binary "joinc"]

def graphemeExtend : CharSet := .unionAll [categories ["me", "mn"], binary "ogrext"]

def graphemeBase : CharSet :=
  .compl (.unionAll [other, categories ["zl", "zp"], graphemeExtend])

/-- The marks of text interchange and the parts of some scripts are seen, whatever their category. -/
def defaultIgnorable : CharSet :=
  .diff (.unionAll [binary "odi", category "cf", binary "vs"])
    (.unionAll [blank, binary "pcm", .ofLines ["FFF9-FFFB 13430-1343F"]])

def math : CharSet := .union (category "sm") (binary "omath")

def patternOnly : CharSet := .union (binary "patsyn") (binary "patws")

def idStart : CharSet := .diff (.unionAll [letter, category "nl", binary "oids"]) patternOnly

def idContinue : CharSet :=
  .diff (.unionAll [idStart, categories ["mn", "mc", "nd", "pc"], binary "oidc"]) patternOnly

/-- The characters that normal forms break up into some that cannot be in an identifier. -/
def brokenInIdentifiers : CharSet :=
  .ofLines ["37A 309B-309C FC5E-FC63 FDFA-FDFB FE70 FE72 FE74 FE76 FE78 FE7A FE7C FE7E"]

def xidStart : CharSet :=
  .diff idStart (.union brokenInIdentifiers (.ofLines ["E33 EB3 FF9E-FF9F"]))

def xidContinue : CharSet := .diff idContinue brokenInIdentifiers

end Arbiter.Unicode
