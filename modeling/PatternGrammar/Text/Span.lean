
/-!
# Spans of a text

A span is a range of UTF-8 byte offsets. `slice?` reads the part of a text that a span covers; it
has no result unless the span lies inside the text and both of its ends fall between two
characters.
-/

namespace PatternGrammar.Text

/-- A range of byte offsets, from `start` up to but not including `stop`. -/
structure Span where
  start : Nat
  stop : Nat
deriving DecidableEq, Repr, Inhabited

namespace Span

/-- The span seen from a text in which its own text begins at byte `offset`. -/
def shift (offset : Nat) (s : Span) : Span :=
  ⟨offset + s.start, offset + s.stop⟩

/-- How a span is written in messages and listings: `start..stop`. -/
def text (s : Span) : String :=
  toString s.start ++ ".." ++ toString s.stop

end Span

/-- The number of UTF-8 bytes of a list of characters. -/
def byteSize (cs : List Char) : Nat :=
  cs.foldr (fun c n => c.utf8Size + n) 0

/-- What follows the first `n` bytes, if a character ends there. -/
def dropBytes : Nat → List Char → Option (List Char)
  | 0, cs => some cs
  | _ + 1, [] => none
  | n + 1, c :: cs => if c.utf8Size ≤ n + 1 then dropBytes (n + 1 - c.utf8Size) cs else none
termination_by structural _ cs => cs

/-- The first `n` bytes, if a character ends there. -/
def takeBytes : Nat → List Char → Option (List Char)
  | 0, _ => some []
  | _ + 1, [] => none
  | n + 1, c :: cs =>
    if c.utf8Size ≤ n + 1 then (takeBytes (n + 1 - c.utf8Size) cs).map (c :: ·) else none
termination_by structural _ cs => cs

/-- The part of a text that a span covers. -/
def slice? (s : String) (span : Span) : Option String :=
  if span.start ≤ span.stop then
    ((dropBytes span.start s.toList).bind (takeBytes (span.stop - span.start))).map String.ofList
  else none

/-- The part of a text that a span covers, and the empty text for a span that covers none. -/
def slice (s : String) (span : Span) : String :=
  (slice? s span).getD ""

end PatternGrammar.Text
