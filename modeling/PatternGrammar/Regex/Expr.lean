import PatternGrammar.Unicode.Property

/-!
# Regular expressions as written

The shape of a regular expression before any flag is applied: which characters, classes, groups
and repetitions it is made of. Sequences and alternatives are right-nested pairs, and a group
keeps its own node, so that the shape has no two readings. `Expr.nesting` counts how deeply a
regular expression nests; more than `Expr.maxNesting` levels are refused.
-/

namespace PatternGrammar.Regex

/-- The options that a group or a directive can switch on or off. -/
inductive Flag where
  | caseless
  | multiline
  | dotAll
  | swapGreed
  | unicode
  | crlf
  | extended
deriving DecidableEq, Repr, Inhabited

/-- A test of the place between two characters, before flags are applied. -/
inductive Assertion where
  | caret
  | dollar
  | textStart
  | textEnd
  | wordBoundary
  | notWordBoundary
  | wordStart
  | wordEnd
  | wordStartHalf
  | wordEndHalf
deriving DecidableEq, Repr, Inhabited

/-- The classes with a one-letter escape. -/
inductive ShortClass where
  | digit
  | space
  | word
deriving DecidableEq, Repr, Inhabited

/-- The classes of ASCII characters that are written by name inside brackets. -/
inductive AsciiClass where
  | alnum | alpha | ascii | blank | cntrl | digit | graph
  | lower | print | punct | space | upper | word | xdigit
deriving DecidableEq, Repr, Inhabited

/-- The ways to combine two sets inside brackets. -/
inductive SetOp where
  | intersection
  | difference
  | symmetricDifference
deriving DecidableEq, Repr, Inhabited

/-- A bracketed class as written. -/
inductive ClassExpr where
  | empty
  | literal (c : Char)
  | range (lo hi : Char)
  | short (k : ShortClass) (negated : Bool)
  | property (q : Unicode.PropertyQuery) (negated : Bool)
  | ascii (k : AsciiClass) (negated : Bool)
  | bracketed (negated : Bool) (body : ClassExpr)
  | union (first rest : ClassExpr)
  | combine (op : SetOp) (left right : ClassExpr)
deriving DecidableEq, Repr, Inhabited

/-- What a pair of parentheses does beside grouping. -/
inductive GroupKind where
  /-- Records the span it matches, under its number and possibly a name. -/
  | capture (index : Nat) (name : Option String)
  /-- Applies flags to its body. -/
  | plain (changes : List (Flag × Bool))
deriving DecidableEq, Repr, Inhabited

/-- A regular expression as written. A literal remembers whether it was written as a two-digit
hexadecimal escape, which names a byte where the `unicode` flag is off. -/
inductive Expr where
  | empty
  | directive (changes : List (Flag × Bool))
  | literal (c : Char) (byteEscape : Bool)
  | dot
  | assertion (a : Assertion)
  | short (k : ShortClass) (negated : Bool)
  | property (q : Unicode.PropertyQuery) (negated : Bool)
  | bracketed (c : ClassExpr)
  | group (kind : GroupKind) (body : Expr)
  | repeated (body : Expr) (min : Nat) (max : Option Nat) (greedy : Bool)
  | concat (first rest : Expr)
  | alternate (first rest : Expr)
deriving DecidableEq, Repr, Inhabited

namespace ClassExpr

/-- The levels of a class, when it stands in a union (`inUnion`) or on its own. A row of items is
one level, however long it is. -/
def nestingIn (inUnion : Bool) : ClassExpr → Nat
  | .bracketed _ body => nestingIn false body + 1
  | .combine _ left right => max (nestingIn false left) (nestingIn false right) + 1
  | .union first rest =>
    let inner := max (nestingIn false first) (nestingIn true rest)
    if inUnion then inner else inner + 1
  | _ => 0

/-- The levels of a class. -/
def nesting (c : ClassExpr) : Nat := nestingIn false c

/-- The union of a row of classes. -/
def ofItems : List ClassExpr → ClassExpr
  | [] => .empty
  | [c] => c
  | c :: cs => .union c (ofItems cs)

end ClassExpr

namespace Expr

/-- The node around an expression, which decides whether a row of sequenced or alternative
expressions goes on or begins. -/
inductive Context where
  | other
  | concat
  | alternate
deriving DecidableEq, Repr

/-- The levels of an expression inside a node. A row of two or more sequenced expressions is one
level, and so is a row of alternatives. -/
def nestingIn : Context → Expr → Nat
  | _, .bracketed c => c.nesting
  | _, .group _ body => nestingIn .other body + 1
  | _, .repeated body _ _ _ => nestingIn .other body + 1
  | context, .concat first rest =>
    let inner := max (nestingIn .other first) (nestingIn .concat rest)
    if context = .concat then inner else inner + 1
  | context, .alternate first rest =>
    let inner := max (nestingIn .other first) (nestingIn .alternate rest)
    if context = .alternate then inner else inner + 1
  | _, _ => 0

/-- The levels of an expression. -/
def nesting (e : Expr) : Nat := nestingIn .other e

/-- The deepest nesting that is accepted. -/
def maxNesting : Nat := 250

/-- The sequence of a row of expressions. -/
def ofSequence : List Expr → Expr
  | [] => .empty
  | [e] => e
  | e :: es => .concat e (ofSequence es)

/-- The alternatives of a row of expressions. -/
def ofAlternatives : List Expr → Expr
  | [] => .empty
  | [e] => e
  | e :: es => .alternate e (ofAlternatives es)

end Expr

end PatternGrammar.Regex
