namespace Arbiter

/-- A text file: its extension, and its text if it can be read. -/
structure File where
  extension : String
  text : Option String

end Arbiter
