
/-!
# Why a regular expression is refused
-/

namespace PatternGrammar.Regex

/-- The faults for which a regular expression is refused. -/
inductive Error where
  /-- The text ends inside a construct. -/
  | unexpectedEnd
  /-- A closing parenthesis without an opening one. -/
  | unopenedGroup
  /-- An opening parenthesis without a closing one. -/
  | unclosedGroup
  /-- A repetition with nothing to repeat. -/
  | missingOperand
  /-- A brace that does not write a count. -/
  | malformedCount
  /-- A count whose upper bound is below its lower bound. -/
  | emptyCount
  /-- A backslash before a character that it gives no meaning. -/
  | unknownEscape
  /-- A hexadecimal escape that names no character. -/
  | malformedHex
  /-- A reference to an earlier group. -/
  | backreference
  /-- A test of what stands before or after a place. -/
  | lookAround
  /-- Flags that are unknown, repeated or not finished. -/
  | malformedFlags
  /-- A group name that is no name. -/
  | malformedGroupName
  /-- Two groups with one name. -/
  | repeatedGroupName
  /-- A word boundary with an unknown name. -/
  | unknownBoundary
  /-- A bracketed class without its closing bracket. -/
  | unclosedClass
  /-- Something in a class or at the end of a range that is no character. -/
  | malformedClassItem
  /-- A range whose end comes before its start. -/
  | emptyRange
  /-- A property of characters with an unknown name or value. -/
  | unknownProperty
  /-- A construct that needs the `unicode` flag where it is off. -/
  | unicodeRequired
  /-- A construct that could match part of a character. -/
  | matchesPartOfCharacter
  /-- More levels of nesting than are accepted. -/
  | nestedTooDeeply
  /-- A program larger than is accepted. -/
  | tooLarge
deriving DecidableEq, Repr, Inhabited

/-- What a sequence of two steps gives, if it gives anything. -/
theorem bind_eq_ok {ε α β : Type} {x : Except ε α} {f : α → Except ε β} {b : β} :
    x >>= f = .ok b ↔ ∃ a, x = .ok a ∧ f a = .ok b := by
  cases x <;> simp [bind, Except.bind]

end PatternGrammar.Regex
