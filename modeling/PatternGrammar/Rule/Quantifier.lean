
/-!
# Quantifiers

How often something is repeated: a lower bound and an upper bound that may be missing. A quantifier
is the shortest way to write such bounds, the same in rules and in regular expressions. Bounds that
leave no repetition with text, `0..0` and a lower bound above the upper one, have no quantifier.
-/

namespace PatternGrammar

/-- The shortest written form of the bounds of a repetition. -/
inductive Quantifier where
  /-- Written `?`: at most once. -/
  | optional
  /-- Written `*`: any number of times. -/
  | zeroOrMore
  /-- Written `+`: at least once. -/
  | oneOrMore
  /-- Written with one count. -/
  | exactly (n : UInt32)
  /-- Written with a count and a comma. -/
  | atLeast (n : UInt32)
  /-- Written with two counts. -/
  | between (min max : UInt32)
deriving DecidableEq, Repr, Inhabited

namespace Quantifier

/-- The quantifier of the given bounds, if they are not degenerate. -/
def ofBounds? (min : UInt32) : Option UInt32 → Option Quantifier
  | none =>
    if min = 0 then some zeroOrMore
    else if min = 1 then some oneOrMore
    else some (atLeast min)
  | some max =>
    if max = 0 ∨ max < min then none
    else if min = 0 ∧ max = 1 then some optional
    else if min = max then some (exactly min)
    else some (between min max)

/-- The bounds that a quantifier stands for. -/
def bounds : Quantifier → UInt32 × Option UInt32
  | optional => (0, some 1)
  | zeroOrMore => (0, none)
  | oneOrMore => (1, none)
  | exactly n => (n, some n)
  | atLeast n => (n, none)
  | between min max => (min, some max)

/-- How bounds are written out in full, the upper one left out if it is missing. -/
def boundsText (min : UInt32) (max : Option UInt32) : String :=
  "\x7b" ++ toString min.toNat ++ "," ++ (max.elim "" fun n => toString n.toNat) ++ "\x7d"

/-- How a quantifier is written. -/
def text : Quantifier → String
  | optional => "?"
  | zeroOrMore => "*"
  | oneOrMore => "+"
  | exactly n => "\x7b" ++ toString n.toNat ++ "\x7d"
  | atLeast n => boundsText n none
  | between min max => boundsText min (some max)

end Quantifier

end PatternGrammar
