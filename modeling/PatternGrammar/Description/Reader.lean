import PatternGrammar.Literal.Block
import PatternGrammar.Literal.Normal
import PatternGrammar.Rule.Basic
import PatternGrammar.Text.Blank
import PatternGrammar.Text.Name

/-!
# Reading descriptions

The right side of a rule is read as the first of the following that the whole text, without blanks
at its ends, can be:

1. a repetition, which is a name followed directly by `?`, `*`, `+` or counts in braces,
2. a choice, which is two or more names with bars between them,
3. a literal, which is one block in braces,
4. a composition, which is two or more names and blocks with spaces or tabs between them; these may
   be left out beside a block.

Main definition: `Description.read`.
-/

namespace PatternGrammar

open PatternGrammar.Text (trimChars isName isNameChar)

/-- Why the right side of a rule cannot be read. -/
inductive DescriptionError where
  /-- The text has none of the four shapes. -/
  | unrecognizedShape (text : String)
  /-- A bound of a repetition does not fit into 32 bits. -/
  | boundOutOfRange (digits : String)
deriving DecidableEq, Repr, Inhabited

/-- The message of an error. -/
def DescriptionError.message : DescriptionError → String
  | unrecognizedShape text =>
    "'" ++ text ++ "' is not a repetition, choice, literal or composition"
  | boundOutOfRange digits => "repetition bound '" ++ digits ++ "' is out of range"

namespace Description

/-- A space or a tab, which may stand between the elements of a description. -/
def isGap (c : Char) : Bool :=
  c == ' ' || c == '\t'

/-- What follows the name of a repetition: a mark, or counts with their digits. The second count is
`none` without a comma, and the empty text after a comma may stand for no upper bound. -/
inductive Count where
  | mark (min : UInt32) (max : Option UInt32)
  | counts (low : List Char) (high : Option (List Char))
deriving DecidableEq, Repr

/-- Reads the counts of a repetition after the opening brace, to the end of the text. -/
def readCounts? (cs : List Char) : Option Count :=
  let low := cs.takeWhile Char.isDigit
  if low.isEmpty then none
  else
    match cs.dropWhile Char.isDigit with
    | ['}'] => some (.counts low none)
    | ',' :: rest =>
      match rest.dropWhile Char.isDigit with
      | ['}'] => some (.counts low (some (rest.takeWhile Char.isDigit)))
      | _ => none
    | _ => none

/-- Reads what follows the name of a repetition, to the end of the text. -/
def readCount? : List Char → Option Count
  | ['?'] => some (.mark 0 (some 1))
  | ['*'] => some (.mark 0 none)
  | ['+'] => some (.mark 1 none)
  | '{' :: cs => readCounts? cs
  | _ => none

/-- The number that decimal digits write. -/
def decimalValue (ds : List Char) : Nat :=
  ds.foldl (fun n c => 10 * n + (c.toNat - '0'.toNat)) 0

/-- The bound that decimal digits write. -/
def readBound (ds : List Char) : Except DescriptionError UInt32 :=
  if decimalValue ds < UInt32.size then .ok (UInt32.ofNat (decimalValue ds))
  else .error (.boundOutOfRange (String.ofList ds))

/-- The bounds that a count stands for. -/
def Count.bounds : Count → Except DescriptionError (UInt32 × Option UInt32)
  | mark min max => .ok (min, max)
  | counts low none => do
    let n ← readBound low
    return (n, some n)
  | counts low (some []) => do return (← readBound low, none)
  | counts low (some high) => do return (← readBound low, some (← readBound high))

/-- Reads a repetition as its name and its count. -/
def readRepetition? (cs : List Char) : Option (String × Count) :=
  let name := cs.takeWhile isNameChar
  if isName name then
    (readCount? (cs.dropWhile isNameChar)).map fun count => (String.ofList name, count)
  else none

/-- The pieces of a text between the bars in it. -/
def splitAtBars : List Char → List (List Char)
  | [] => [[]]
  | c :: cs =>
    if c = '|' then [] :: splitAtBars cs
    else
      match splitAtBars cs with
      | piece :: pieces => (c :: piece) :: pieces
      | [] => [[c]]

/-- A text without the spaces and tabs at its two ends. -/
def trimGaps (cs : List Char) : List Char :=
  ((cs.dropWhile isGap).reverse.dropWhile isGap).reverse

/-- Reads a choice as the names of its alternatives. -/
def readChoice? (cs : List Char) : Option (List String) :=
  let pieces := (splitAtBars cs).map trimGaps
  if 2 ≤ pieces.length && pieces.all isName then some (pieces.map String.ofList) else none

/-- Reads a literal as its pattern in normal form. -/
def readLiteral? (cs : List Char) : Option String :=
  match Literal.scanBlock cs with
  | some (inner, []) => some (String.ofList (Literal.normalize inner))
  | _ => none

/-- Whether a character ends a name in a composition. -/
def endsName (c : Char) : Bool :=
  isGap c || c == '{'

/-- Reads the parts of a composition, at most the given number of them. -/
def readParts? : Nat → List Char → Option (List Part)
  | n, cs =>
    match cs.dropWhile isGap with
    | [] => some []
    | '{' :: cs =>
      match n, Literal.scanBlock ('{' :: cs) with
      | n + 1, some (inner, rest) =>
        (readParts? n rest).map (.literal (String.ofList (Literal.normalize inner)) :: ·)
      | _, _ => none
    | cs =>
      let name := cs.takeWhile fun c => !endsName c
      match n with
      | 0 => none
      | n + 1 =>
        if isName name then
          (readParts? n (cs.dropWhile fun c => !endsName c)).map (.name (String.ofList name) :: ·)
        else none

/-- Reads a composition as its parts, of which there are at least two. -/
def readComposition? (cs : List Char) : Option (List Part) :=
  match readParts? cs.length cs with
  | some parts => if 2 ≤ parts.length then some parts else none
  | none => none

/-- Reads the characters of a description that has no blanks at its ends. -/
def readChars (cs : List Char) : Except DescriptionError Description :=
  match readRepetition? cs with
  | some (rule, count) => do
    let (min, max) ← count.bounds
    return repetition rule min max
  | none =>
    match readChoice? cs with
    | some alternatives => .ok (choice alternatives)
    | none =>
      match readLiteral? cs with
      | some pattern => .ok (literal pattern)
      | none =>
        match readComposition? cs with
        | some parts => .ok (composition parts)
        | none => .error (.unrecognizedShape (String.ofList cs))

/-- Reads a description. -/
def read (text : String) : Except DescriptionError Description :=
  readChars (trimChars text.toList)

end Description

end PatternGrammar
