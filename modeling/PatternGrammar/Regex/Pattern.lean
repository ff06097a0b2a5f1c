import PatternGrammar.Unicode.CharSet

/-!
# Patterns

A pattern is a regular expression with its flags applied: literals, sets of characters, tests of
places, sequences, choices, repetitions and captures. `factors` and `alternatives` read a pattern as
a sequence or as a choice; `ofSet`, `join`, `choose` and `times` build patterns in a normal form in
which

* a set of one character is a literal,
* a sequence has no empty factors, no sequence among its factors and no two literals side by side,
* a choice of characters is one set, and so is a choice of sets,
* a choice whose branches are sequences and begin with the same factors has those factors in front
  of it, and
* a repetition of a pattern that only matches the empty text repeats it at most once.

The fourth rule decides which match is preferred: among the ways to match the common factors the
best one wins, and only then does the order of the branches count.
-/

namespace PatternGrammar.Regex

/-- A test of the place between two characters. A place at a line end or a word boundary is tested
with the characters on its two sides. -/
inductive Look where
  | start
  | stop
  | lineStart (crlf : Bool)
  | lineStop (crlf : Bool)
  | wordBoundary (ascii : Bool)
  | notWordBoundary (ascii : Bool)
  | wordStart (ascii : Bool)
  | wordStop (ascii : Bool)
  | wordStartHalf (ascii : Bool)
  | wordStopHalf (ascii : Bool)
deriving DecidableEq, Repr, Inhabited

/-- A regular expression with its flags applied. `empty` matches the empty text everywhere. A set
remembers whether it was written as a set of bytes; it is then another factor than the same set of
characters. -/
inductive Pattern where
  | empty
  | literal (cs : List Char)
  | chars (set : CharSet) (asBytes : Bool)
  | look (l : Look)
  | seq (first rest : Pattern)
  | choice (first rest : Pattern)
  | repeated (body : Pattern) (min : Nat) (max : Option Nat) (greedy : Bool)
  | capture (index : Nat) (body : Pattern)
deriving DecidableEq, Repr, Inhabited

namespace Pattern

/-- The pattern that matches nothing. -/
def fail : Pattern := chars CharSet.empty true

/-- The pattern of a set of characters. -/
def ofSet (set : CharSet) (asBytes : Bool) : Pattern :=
  if set.ranges.isEmpty then fail
  else
    match set.single? with
    | some c => literal [c]
    | none => chars set asBytes

/-- The factors of a pattern read as a sequence. -/
def factors : Pattern → List Pattern
  | empty => []
  | seq first rest => factors first ++ factors rest
  | p => [p]

/-- The sequence of a row of factors. -/
def ofFactors : List Pattern → Pattern
  | [] => empty
  | [p] => p
  | p :: ps => seq p (ofFactors ps)

/-- A factor in front of a pattern. Two literals become one. -/
def prepend : Pattern → Pattern → Pattern
  | p, empty => p
  | literal cs, literal ds => literal (cs ++ ds)
  | literal cs, seq (literal ds) rest => seq (literal (cs ++ ds)) rest
  | p, q => seq p q

/-- The sequence of two patterns. The factors of the first one are put in front of the second. -/
def join : Pattern → Pattern → Pattern
  | empty, q => q
  | seq first rest, q => prepend first (join rest q)
  | p, q => prepend p q

/-- The branches of a pattern read as a choice. -/
def alternatives : Pattern → List Pattern
  | choice first rest => alternatives first ++ alternatives rest
  | p => [p]

/-- The choice between a row of branches. -/
def ofAlternatives : List Pattern → Pattern
  | [] => fail
  | [p] => p
  | p :: ps => choice p (ofAlternatives ps)

/-- The character of a literal that has just one. -/
def letter? : Pattern → Option Char
  | literal [c] => some c
  | _ => none

/-- The set of a pattern that is a set of characters. -/
def set? : Pattern → Option CharSet
  | chars set _ => some set
  | _ => none

/-- The longest common start of two rows. -/
def commonStart {α : Type} [DecidableEq α] : List α → List α → List α
  | a :: as, b :: bs => if a = b then a :: commonStart as bs else []
  | _, _ => []

/-- The choice between branches that are no choices, as one set if all of them are single
characters or all of them are sets. -/
def chooseSet? (ps : List Pattern) : Option Pattern :=
  match ps.mapM letter? with
  | some cs => some (ofSet (CharSet.ofRanges (cs.map fun c => (c.toNat, c.toNat))) false)
  | none => (ps.mapM set?).map fun sets => ofSet (sets.foldl CharSet.union CharSet.empty) false

/-- The choice between a row of branches, without common factors in front. -/
def chooseFlat (ps : List Pattern) : Pattern :=
  match ps.flatMap alternatives with
  | [] => fail
  | [p] => p
  | ps => (chooseSet? ps).getD (ofAlternatives ps)

/-- The common start of a row of branches with the choice of what follows it, if each branch is a
sequence of at least two factors and all begin alike. -/
def factorOut? (ps : List Pattern) : Option Pattern :=
  match ps.map factors with
  | [] => none
  | [_] => none
  | row :: rows =>
    if (row :: rows).all fun r => 2 ≤ r.length then
      match rows.foldl commonStart row with
      | [] => none
      | common =>
        let tails := (row :: rows).map fun r => ofFactors (r.drop common.length)
        some (join (ofFactors common) (chooseFlat tails))
    else none

/-- The choice between a row of branches. -/
def choose : List Pattern → Pattern
  | [] => fail
  | [p] => p
  | ps =>
    let ps := ps.flatMap alternatives
    (chooseSet? ps <|> factorOut? ps).getD (ofAlternatives ps)

/-- Whether the pattern matches nothing but the empty text. -/
def isZeroWidth : Pattern → Bool
  | empty => true
  | literal _ => false
  | chars .. => false
  | look _ => true
  | seq first rest => isZeroWidth first && isZeroWidth rest
  | choice first rest => isZeroWidth first && isZeroWidth rest
  | repeated body _ max _ => max.isSome && isZeroWidth body
  | capture _ body => isZeroWidth body

/-- The pattern repeated between `min` and `max` times, `max = none` without end. -/
def times (p : Pattern) (min : Nat) (max : Option Nat) (greedy : Bool) : Pattern :=
  let (min, max) :=
    if p.isZeroWidth then (Nat.min min 1, some ((max.map (Nat.min · 1)).getD 1)) else (min, max)
  if min == 0 && max == some 0 then empty
  else if min == 1 && max == some 1 then p
  else repeated p min max greedy

end Pattern

end PatternGrammar.Regex
