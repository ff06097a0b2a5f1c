import PatternGrammar.Regex.Reader
import PatternGrammar.Regex.Resolve
import PatternGrammar.Regex.Search
import PatternGrammar.Regex.Size
import PatternGrammar.Text.Span

/-!
# Regular expressions

`Regex.compile` reads a regular expression and builds its program. `findAll` gives the spans of all
matches in a text, `named` the spans of named groups of the first match. Both report spans in bytes
and on the edges of characters.

Main definitions: `Regex`, `Regex.compile`, `Regex.findAll`, `Regex.named`.
-/

namespace PatternGrammar

open PatternGrammar.Text (Span byteSize)

/-- A compiled regular expression. -/
structure Regex where
  source : String
  pattern : Regex.Pattern
  program : Regex.Program
  groupNames : List (String × Nat)

namespace Regex

/-- Compiles a regular expression. -/
def compile (source : String) : Except Error Regex := do
  let e ← Expr.read source.toList
  let pattern ← e.resolve
  if pattern.fits then return ⟨source, pattern, pattern.program, e.groupNames⟩
  else .error .tooLarge

/-- The byte offsets of all places in a text. -/
def offsets (cs : List Char) : Array Nat :=
  (cs.foldl (fun (acc, n) c => (acc.push (n + c.utf8Size), n + c.utf8Size)) (#[0], 0)).1

/-- The span in bytes between two places. -/
def byteSpan (offsets : Array Nat) (m : Nat × Nat) : Span :=
  ⟨offsets.getD m.1 0, offsets.getD m.2 0⟩

/-- The spans of all matches in a text, from left to right. -/
def findAll (re : Regex) (s : String) : List Span :=
  let cs := s.toList
  let offsets := offsets cs
  (allMatches re.program cs.toArray).map (byteSpan offsets)

/-- The spans of the groups with the given names in the first match, `none` for a group that took
no part in it or does not exist. -/
def named (re : Regex) (names : List String) (s : String) : Option (List (Option Span)) :=
  let cs := s.toList
  let offsets := offsets cs
  (search re.program cs.toArray 0).map fun t =>
    names.map fun name =>
      ((re.groupNames.lookup name).bind t.group).map (byteSpan offsets)

end Regex

end PatternGrammar
