import PatternGrammar.Rule.Basic

/-!
# Grammars

A grammar is a row of rules. Its first rule is the one that texts are parsed with, and a name stands
for the first rule that has it.
-/

namespace PatternGrammar

/-- A row of rules. -/
structure Grammar where
  rules : List Rule := []
deriving DecidableEq, Repr, Inhabited

namespace Grammar

/-- The first rule with a name. -/
def get? (g : Grammar) (name : String) : Option Rule :=
  g.rules.find? fun r => r.name == name

/-- The rule that texts are parsed with. -/
def startRule? (g : Grammar) : Option Rule :=
  g.rules.head?

/-- The grammar with one more rule at its end. -/
def push (g : Grammar) (r : Rule) : Grammar :=
  ⟨g.rules ++ [r]⟩

/-- The grammar with its first rule moved to the end. -/
def rotate (g : Grammar) : Grammar :=
  ⟨g.rules.drop 1 ++ g.rules.take 1⟩

/-- The canonical text of a grammar: each rule on a line of its own. -/
def text (g : Grammar) : String :=
  String.join (g.rules.map fun r => r.text ++ "\n")

end Grammar

end PatternGrammar
