
/-!
# Tables of code points

How the sets of code points of this folder are written down. A table is a row of numbers in base
36 on several lines, each the step from the number before it: by turns the step from the last code
point of a range to the first of the next one, and the step from the first code point of a range to
its last.
-/

namespace PatternGrammar.Unicode

/-- A set of code points under its names. -/
structure Table where
  names : List String
  steps : List String
deriving Repr

/-- The value of a digit in base 36. -/
def digitValue (c : Char) : Nat :=
  if c.isDigit then c.toNat - '0'.toNat else c.toNat - 'a'.toNat + 10

/-- The number that the digits of a word write in base 36. -/
def wordValue (w : String) : Nat :=
  w.foldl (fun n c => 36 * n + digitValue c) 0

/-- The ranges that a row of steps describes, counted from the code point `last`. -/
def rangesFrom (last : Nat) : List Nat → List (Nat × Nat)
  | gap :: width :: rest =>
    (last + gap, last + gap + width) :: rangesFrom (last + gap + width) rest
  | _ => []

/-- The words on the lines of a table. -/
def wordsOf (lines : List String) : List String :=
  lines.flatMap fun line => line.splitOn " "

/-- The ranges that the lines of a table describe. -/
def readSteps (lines : List String) : List (Nat × Nat) :=
  rangesFrom 0 ((wordsOf lines).map wordValue)

/-- The ranges of the first table with the given name. -/
def lookUp (tables : List Table) (name : String) : Option (List (Nat × Nat)) :=
  (tables.find? fun t => t.names.contains name).map fun t => readSteps t.steps

end PatternGrammar.Unicode
