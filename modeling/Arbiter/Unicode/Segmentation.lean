import Arbiter.Unicode.Derived

namespace Arbiter.Unicode

namespace Segmentation

def marks : CharSet := .union graphemeExtend (category "mc")

/-- Characters of the format category that none of the other classes takes. -/
def format : CharSet := .diff (category "cf") (.union (binary "pcm") graphemeExtend)

def script (name : String) : CharSet := (lookup? Script.table name).getD .nothing

def midLetter : CharSet := .ofLines ["3A B7 387 55F 5F4 2027 FE13 FE55 FF1A"]

def midNumLet : CharSet := .ofLines ["2E 2018-2019 2024 FE52 FF07 FF0E"]

def katakana : CharSet := .union (script "kana") (.ofLines ["3031-3035 309B-309C 30A0 30FC FF70"])

def hebrewLetter : CharSet := .inter (script "hebr") (category "lo")

def wordExtend : CharSet := .union marks (binary "emod")

/-- The scripts that are written without blanks between words. -/
def unspaced : CharSet :=
  .unionAll ((["hira", "thai", "laoo", "mymr", "khmr", "tale", "talu", "lana", "ahom", "tavt"]).map script)

/-- The letters of words, and some signs that are used as letters. -/
def aLetter : CharSet :=
  .union
    (.diff alphabetic (.unionAll [binary "ideo", katakana, hebrewLetter, wordExtend, unspaced]))
    (.ofLines ["2C2-2C5 2D2-2D7 2DE-2DF 2E5-2EB 2ED 2EF-2FF 55A-55C 55E 58A 5F3 70F A708-A716",
      "A720-A721 A789-A78A AB5B"])

def numeric : CharSet :=
  .diff (.unionAll [digit, binary "pcm", .ofLines ["66B 19DA"]]) (.ofLines ["70F"])

def word? (name : String) : Option CharSet :=
  match name with
  | "cr" => some (.single '\r')
  | "lf" => some (.single '\n')
  | "nl" | "newline" => some (.ofLines ["B-C 85 2028-2029"])
  | "zwj" => some (.single '\u200d')
  | "sq" | "singlequote" => some (.single '\'')
  | "dq" | "doublequote" => some (.single '"')
  | "ri" | "regionalindicator" => some (binary "ri")
  | "fo" | "format" => some (.diff format (.ofLines ["200B 200D"]))
  | "extend" => some wordExtend
  | "ka" | "katakana" => some katakana
  | "hl" | "hebrewletter" => some hebrewLetter
  | "le" | "aletter" => some aLetter
  | "ml" | "midletter" => some midLetter
  | "mb" | "midnumlet" => some midNumLet
  | "mn" | "midnum" => some (.ofLines ["2C 3B 37E 589 60C-60D 66C 7F8 2044 FE50 FE54 FF0C FF1B"])
  | "nu" | "numeric" => some numeric
  | "ex" | "extendnumlet" => some (.union (category "pc") (.ofLines ["202F"]))
  | "wsegspace" => some (.diff (category "zs") (.ofLines ["A0 2007 202F"]))
  | _ => none

/-- The full stops that do not always end a sentence. -/
def aTerm : CharSet := .ofLines ["2E 2024 FE52 FF0E"]

def sentenceExtend : CharSet := .union marks (.single '\u200d')

/-- Georgian is written without case: its letters are neither lower nor upper. -/
def sentenceLower : CharSet :=
  .diff lowercase (.union graphemeExtend (.ofLines ["10D0-10FA 10FD-10FF"]))

def sentenceUpper : CharSet :=
  .diff (.union uppercase (category "lt")) (.ofLines ["1C90-1CBA 1CBD-1CBF"])

def sentence? (name : String) : Option CharSet :=
  match name with
  | "cr" => some (.single '\r')
  | "lf" => some (.single '\n')
  | "se" | "sep" => some (.ofLines ["85 2028-2029"])
  | "ex" | "extend" => some sentenceExtend
  | "fo" | "format" => some (.diff (.union format (.ofLines ["70F"])) (.single '\u200d'))
  | "sp" => some (.diff blank (.ofLines ["A D 85 2028-2029"]))
  | "lo" | "lower" => some sentenceLower
  | "up" | "upper" => some sentenceUpper
  | "le" | "oletter" =>
    some (.union (.diff alphabetic (.unionAll [sentenceLower, sentenceUpper, sentenceExtend]))
      (.ofLines ["5F3"]))
  | "nu" | "numeric" => some (.union numeric (.ofLines ["66C"]))
  | "at" | "aterm" => some aTerm
  | "st" | "sterm" => some (.diff (binary "sterm") aTerm)
  | "sc" | "scontinue" =>
    some (.ofLines ["2C-2D 3A-3B 37E 55D 60C-60D 7F8 1802 1808 2013-2014 3001 FE10-FE11 FE13-FE14",
      "FE31-FE32 FE50-FE51 FE54-FE55 FE58 FE63 FF0C-FF0D FF1A-FF1B FF64"])
  | "cl" | "close" =>
    some (.union
      (.diff (.union (categories ["ps", "pe", "pi", "pf"]) (binary "qmark")) (.ofLines ["FF02 FF07"]))
      (.ofLines ["275B-2760 2E00-2E01 2E06-2E08 2E0B 1F676-1F678"]))
  | _ => none

/-- The Hangul syllables of two letters come first in each block of 28, and then those of three. -/
def hangulBlocks (first last : Nat) : CharSet :=
  .ofRanges ((List.range 399).map fun n => (0xAC00 + n * 28 + first, 0xAC00 + n * 28 + last))

def grapheme? (name : String) : Option CharSet :=
  match name with
  | "cr" => some (.single '\r')
  | "lf" => some (.single '\n')
  | "cn" | "control" =>
    some (.diff
      (.unionAll [categories ["zl", "zp", "cc", "cf"], .inter unassigned defaultIgnorable])
      (.unionAll [binary "pcm", graphemeExtend, .ofLines ["A D 200D"]]))
  | "ex" | "extend" => some (.union graphemeExtend (binary "emod"))
  | "zwj" => some (.single '\u200d')
  | "ri" | "regionalindicator" => some (binary "ri")
  | "pp" | "prepend" =>
    some (.union (binary "pcm")
      (.ofLines ["D4E 111C2-111C3 113D1 1193F 11941 11A3A 11A84-11A89 11D46 11F02"]))
  | "sm" | "spacingmark" =>
    some (.union
      (.diff (category "mc") (.union graphemeExtend
        (.ofLines ["102B-102C 1038 1062-1064 1067-106D 1083 1087-108C 108F 109A-109C 1A61 1A63-1A64",
          "AA7B AA7D 11720-11721"])))
      (.ofLines ["E33 EB3"]))
  | "l" => some (.ofLines ["1100-115F A960-A97C"])
  | "v" => some (.ofLines ["1160-11A7 D7B0-D7C6 16D63 16D67-16D6A"])
  | "t" => some (.ofLines ["11A8-11FF D7CB-D7FB"])
  | "lv" => some (hangulBlocks 0 0)
  | "lvt" => some (hangulBlocks 1 27)
  | _ => none

end Segmentation

end Arbiter.Unicode
