
/-!
# Names

A name is a letter followed by letters, digits and underscores, all of them ASCII.
-/

namespace PatternGrammar.Text

/-- Whether a character may stand in a name after the first. -/
def isNameChar (c : Char) : Bool :=
  c.isAlphanum || c == '_'

/-- Whether the characters are a name. -/
def isName : List Char → Bool
  | [] => false
  | c :: cs => c.isAlpha && cs.all isNameChar

end PatternGrammar.Text
