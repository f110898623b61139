import Arbiter.Pattern.Matching
import Arbiter.Pattern.Reader
import Arbiter.Pattern.Size

namespace Arbiter

/-- A regular expression that is ready to be looked for. -/
structure Pattern where
  regex : Pattern.Regex

namespace Pattern

/-- Reads an expression that is not too large. -/
def ofText? (text : String) : Option Pattern :=
  ((Reader.read? text).filter Size.fits).map (⟨·⟩)

/-- Whether the pattern matches some part of a text. -/
def occursIn (p : Pattern) (text : String) : Bool := p.regex.occursIn text

end Pattern

end Arbiter
