
/-!
# Lines

The lines of a row of characters or bytes. A line ends before a newline, and one carriage return in
front of the newline does not belong to it. What follows the last newline is a line if it is not
empty, with all its carriage returns.
-/

namespace PatternGrammar.Lines

variable {α : Type} [DecidableEq α]

/-- A line that ended at a newline, without the carriage return at its end. -/
def dropReturn (ret : α) (line : List α) : List α :=
  if line.getLast? = some ret then line.dropLast else line

/-- The lines of a row in which `newline` ends a line and `ret` is the carriage return. -/
def split (newline ret : α) : List α → List α → List (List α)
  | [], [] => []
  | line, [] => [line.reverse]
  | line, a :: as =>
    if a = newline then dropReturn ret line.reverse :: split newline ret [] as
    else split newline ret (a :: line) as

end PatternGrammar.Lines
