import Arbiter.Unicode.CharSet

namespace Arbiter.Pattern

open Unicode (CharSet)

inductive Look where
  | startText
  | endText
  | startLine
  | endLine
  /-- The start and end of lines where a carriage return ends lines too. -/
  | startLineCR
  | endLineCR
  /-- The next six look for the edges of words made of these characters. -/
  | wordEdge (word : CharSet)
  | notWordEdge (word : CharSet)
  | wordStart (word : CharSet)
  | wordEnd (word : CharSet)
  | wordStartHalf (word : CharSet)
  | wordEndHalf (word : CharSet)
  deriving DecidableEq

/-- The characters on either side of a place in a text. -/
structure Place where
  before : Option Char
  after : Option Char

namespace Look

/-- The characters of words whose edges are looked for. -/
def word? : Look → Option CharSet
  | wordEdge w | notWordEdge w | wordStart w | wordEnd w | wordStartHalf w | wordEndHalf w => some w
  | _ => none

def holds (p : Place) : Look → Bool
  | startText => p.before.isNone
  | endText => p.after.isNone
  | startLine => p.before.isNone || p.before = some '\n'
  | endLine => p.after.isNone || p.after = some '\n'
  | startLineCR =>
    p.before.isNone || p.before = some '\n' || (p.before = some '\r' && p.after ≠ some '\n')
  | endLineCR =>
    p.after.isNone || p.after = some '\r' || (p.after = some '\n' && p.before ≠ some '\r')
  | wordEdge w => p.before.any w.has != p.after.any w.has
  | notWordEdge w => p.before.any w.has == p.after.any w.has
  | wordStart w => !p.before.any w.has && p.after.any w.has
  | wordEnd w => p.before.any w.has && !p.after.any w.has
  | wordStartHalf w => !p.before.any w.has
  | wordEndHalf w => !p.after.any w.has

end Look

end Arbiter.Pattern
