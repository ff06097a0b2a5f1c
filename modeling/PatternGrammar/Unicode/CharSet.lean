
/-!
# Sets of characters

A set of characters is an ascending list of ranges of code points, of which no two touch. Both ends
of a range are characters, so that a range may span the surrogates, which stand for no character;
the last character below them and the first one above do not touch. `joinTouching` makes one list of
ranges out of an ascending list in which ranges overlap or touch, and so the set operations give
each set one written form.
-/

namespace PatternGrammar

/-- A set of characters, as ascending ranges of code points with both ends included. -/
structure CharSet where
  ranges : List (Nat × Nat)
deriving DecidableEq, Repr, Inhabited

namespace CharSet

/-- The set without characters. -/
def empty : CharSet := ⟨[]⟩

/-- The code point of the last character. -/
def lastCode : Nat := 0x10FFFF

/-- The set of all characters. -/
def all : CharSet := ⟨[(0, lastCode)]⟩

/-- Whether a code point lies in one of the ranges. -/
def hasCode (s : CharSet) (n : Nat) : Bool :=
  s.ranges.any fun r => r.1 ≤ n && n ≤ r.2

/-- Whether a character is in the set. -/
def contains (s : CharSet) (c : Char) : Bool :=
  s.hasCode c.toNat

/-- The code point of the character after the one with the given code point. -/
def next (n : Nat) : Nat :=
  if n = 0xD7FF then 0xE000 else n + 1

/-- The code point of the character before the one with the given code point. -/
def prev (n : Nat) : Nat :=
  if n = 0xE000 then 0xD7FF else n - 1

/-- Whether a range stands before another one, by its first and then by its last code point. -/
def isBefore (r s : Nat × Nat) : Bool :=
  r.1 < s.1 || (r.1 == s.1 && r.2 < s.2)

/-- Joins the ranges of an ascending list that overlap or touch with the range before them. -/
def joinAfter (r : Nat × Nat) : List (Nat × Nat) → List (Nat × Nat)
  | [] => [r]
  | s :: rest =>
    if s.1 ≤ r.2 + 1 then joinAfter (r.1, max r.2 s.2) rest else r :: joinAfter s rest

/-- Joins the ranges of an ascending list that overlap or touch. -/
def joinTouching : List (Nat × Nat) → List (Nat × Nat)
  | [] => []
  | r :: rest => joinAfter r rest

/-- The set of the characters in any of the ranges. -/
def ofRanges (rs : List (Nat × Nat)) : CharSet :=
  ⟨joinTouching (rs.mergeSort fun r s => !isBefore s r)⟩

/-- The set of one character. -/
def singleton (c : Char) : CharSet := ⟨[(c.toNat, c.toNat)]⟩

/-- The set of the characters from `lo` to `hi`. -/
def interval (lo hi : Char) : CharSet := ⟨[(lo.toNat, hi.toNat)]⟩

/-- The characters of either set. -/
def union (a b : CharSet) : CharSet :=
  ofRanges (a.ranges ++ b.ranges)

/-- The range between two code points in either order. -/
def between (m n : Nat) : Nat × Nat :=
  (min m n, max m n)

/-- The gaps of ascending ranges after a range that ends at `last`. Between two ranges that only
the surrogates part, the gap is made of the two characters next to these. -/
def gapsAfter (last : Nat) : List (Nat × Nat) → List (Nat × Nat)
  | [] => if last < lastCode then [(next last, lastCode)] else []
  | r :: rest => between (next last) (prev r.1) :: gapsAfter r.2 rest

/-- The characters that are not in the set, where the set has no two ranges that only the surrogates
part. -/
def complement (s : CharSet) : CharSet :=
  match s.ranges with
  | [] => all
  | r :: rest => ⟨(if 0 < r.1 then [(0, prev r.1)] else []) ++ gapsAfter r.2 rest⟩

/-- The code points in the ranges of both of two ascending lists. -/
def interRanges : List (Nat × Nat) → List (Nat × Nat) → List (Nat × Nat)
  | [], _ => []
  | _, [] => []
  | r :: rs, s :: ss =>
    let rest := if r.2 < s.2 then interRanges rs (s :: ss) else interRanges (r :: rs) ss
    if max r.1 s.1 ≤ min r.2 s.2 then (max r.1 s.1, min r.2 s.2) :: rest else rest
termination_by rs ss => rs.length + ss.length

/-- The characters of both sets. -/
def inter (a b : CharSet) : CharSet :=
  ⟨interRanges a.ranges b.ranges⟩

/-- The code points in the ranges of an ascending list and in none of another one. -/
def diffRanges : List (Nat × Nat) → List (Nat × Nat) → List (Nat × Nat)
  | [], _ => []
  | rs, [] => rs
  | r :: rs, s :: ss =>
    if s.2 < r.1 then diffRanges (r :: rs) ss
    else if r.2 < s.1 then r :: diffRanges rs (s :: ss)
    else
      let after := if s.2 < r.2 then diffRanges ((next s.2, r.2) :: rs) ss
        else diffRanges rs (s :: ss)
      if r.1 < s.1 then (r.1, prev s.1) :: after else after
termination_by rs ss => rs.length + ss.length

/-- The characters of `a` that are not in `b`. -/
def diff (a b : CharSet) : CharSet :=
  ⟨diffRanges a.ranges b.ranges⟩

/-- The characters of one of the two sets but not of both. -/
def symmDiff (a b : CharSet) : CharSet :=
  diff (union a b) (inter a b)

/-- The complement when `negated`, else the set itself. -/
def negateIf (negated : Bool) (s : CharSet) : CharSet :=
  if negated then s.complement else s

/-- Whether the set holds ASCII characters only. -/
def isAscii (s : CharSet) : Bool :=
  s.ranges.all fun r => r.2 < 0x80

/-- The character of a set with exactly one. -/
def single? (s : CharSet) : Option Char :=
  match s.ranges with
  | [(lo, hi)] => if lo = hi ∧ lo.isValidChar then some (Char.ofNat lo) else none
  | _ => none

end CharSet

end PatternGrammar
