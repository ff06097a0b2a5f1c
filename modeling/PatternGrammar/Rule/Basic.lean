import PatternGrammar.Rule.Quantifier

/-!
# Rules

A rule gives a name to one of four shapes: a repetition of another rule, a choice between other
rules, a literal pattern, or a composition of parts that follow each other. `Rule.text` writes a
rule in its canonical form.
-/

namespace PatternGrammar

/-- One element of a composition. -/
inductive Part where
  /-- The rule with this name. -/
  | name (value : String)
  /-- This pattern. -/
  | literal (value : String)
deriving DecidableEq, Repr, Inhabited

namespace Part

/-- The rule that a part refers to. -/
def ruleName? : Part → Option String
  | name n => some n
  | literal _ => none

/-- Whether a part is a pattern. -/
def isLiteral : Part → Bool
  | name _ => false
  | literal _ => true

/-- How a part is written: a name as it is, a pattern in braces. -/
def text : Part → String
  | name n => n
  | literal p => "\x7b" ++ p ++ "\x7d"

end Part

/-- What a rule says about the texts it describes. -/
inductive Description where
  /-- The rule repeated between `min` and `max` times, without end if there is no `max`. -/
  | repetition (rule : String) (min : UInt32) (max : Option UInt32)
  /-- The first of the rules that matches. -/
  | choice (alternatives : List String)
  /-- A regular expression. -/
  | literal (pattern : String)
  /-- The parts one after another. -/
  | composition (parts : List Part)
deriving DecidableEq, Repr, Inhabited

namespace Description

/-- The immediate components of a description, in order. -/
def components : Description → List Part
  | repetition rule _ _ => [.name rule]
  | choice alternatives => alternatives.map .name
  | literal pattern => [.literal pattern]
  | composition parts => parts

/-- The names of the rules that a description refers to, in order. -/
def references (d : Description) : List String :=
  d.components.filterMap Part.ruleName?

/-- Whether a description refers to a rule directly. -/
def refersTo (d : Description) (name : String) : Bool :=
  match d with
  | repetition rule _ _ => rule == name
  | choice alternatives => alternatives.any (· == name)
  | literal _ => false
  | composition parts => parts.any fun part => part.ruleName? == some name

/-- Whether a description is a bare regular expression. -/
def isLiteral : Description → Bool
  | literal _ => true
  | _ => false

/-- The name of the shape. -/
def kind : Description → String
  | repetition .. => "repetition"
  | choice _ => "choice"
  | literal _ => "literal"
  | composition _ => "composition"

/-- How a description is written. Bounds without a quantifier are written out in full. -/
def text : Description → String
  | repetition rule min max =>
    rule ++ ((Quantifier.ofBounds? min max).elim (Quantifier.boundsText min max) Quantifier.text)
  | choice alternatives => " | ".intercalate alternatives
  | literal pattern => "\x7b" ++ pattern ++ "\x7d"
  | composition parts => " ".intercalate (parts.map Part.text)

end Description

/-- A description with a name. -/
structure Rule where
  name : String
  description : Description
deriving DecidableEq, Repr, Inhabited

namespace Rule

/-- How a rule is written. -/
def text (r : Rule) : String :=
  r.name ++ " := " ++ r.description.text

end Rule

end PatternGrammar
