import PatternGrammar.Regex.Error
import PatternGrammar.Text.Blank

/-!
# Parts of regular expressions: blanks, numbers and hexadecimal escapes

A reading function takes the characters that remain and gives what it read with the characters
after it. Where `extended` is set, blank characters and comments between the parts of a construct
are passed over; a comment runs from `#` to the end of its line.
-/

namespace PatternGrammar.Regex.Reader

open PatternGrammar.Text (isBlank)

/-- The characters after blanks and comments; `inComment` says whether a comment is open. -/
def skipBlanks (inComment : Bool) : List Char → List Char
  | [] => []
  | c :: cs =>
    if inComment then skipBlanks (c != '\n') cs
    else if isBlank c then skipBlanks false cs
    else if c == '#' then skipBlanks true cs
    else c :: cs

/-- The characters after blanks and comments where those have no meaning. -/
def skip (extended : Bool) (cs : List Char) : List Char :=
  if extended then skipBlanks false cs else cs

/-- The longest row of characters with the property `p`, and what follows. Blanks and comments
after each of them are passed over. -/
def collectFor (extended : Bool) (p : Char → Bool) : Nat → List Char → List Char × List Char
  | n + 1, c :: cs =>
    if p c then
      let (taken, rest) := collectFor extended p n (skip extended cs)
      (c :: taken, rest)
    else ([], c :: cs)
  | _, cs => ([], cs)

/-- The longest row of characters with the property `p`, and what follows. -/
def collect (extended : Bool) (p : Char → Bool) (cs : List Char) : List Char × List Char :=
  collectFor extended p cs.length cs

/-- The characters after blanks, which are passed over inside a count with or without
`extended`. -/
def skipInCount (extended : Bool) (cs : List Char) : List Char :=
  match cs with
  | c :: _ =>
    if isBlank c then (if extended then skipBlanks false cs else cs.dropWhile isBlank) else cs
  | [] => []

/-- The number that decimal digits write. -/
def decimalValue (ds : List Char) : Nat :=
  ds.foldl (fun n c => 10 * n + (c.toNat - '0'.toNat)) 0

/-- The largest bound of a counted repetition. -/
def maxCount : Nat := 4294967295

/-- Reads a number of a counted repetition with the blanks around it. The result is `none` where
no digit stands. -/
def readCount (extended : Bool) (cs : List Char) : Except Error (Option Nat × List Char) :=
  let (digits, rest) := collect extended Char.isDigit (cs.dropWhile isBlank)
  let rest := skipInCount extended rest
  if digits.isEmpty then .ok (none, rest)
  else if decimalValue digits ≤ maxCount then .ok (some (decimalValue digits), rest)
  else .error .malformedCount

/-- Whether a character is a hexadecimal digit. -/
def isHexDigit (c : Char) : Bool :=
  c.isDigit || ('a' ≤ c && c ≤ 'f') || ('A' ≤ c && c ≤ 'F')

/-- The value of a hexadecimal digit. -/
def hexDigitValue (c : Char) : Nat :=
  if c.isDigit then c.toNat - '0'.toNat
  else if 'a' ≤ c then c.toNat - 'a'.toNat + 10
  else c.toNat - 'A'.toNat + 10

/-- The character that hexadecimal digits name. -/
def hexChar? (ds : List Char) : Option Char :=
  let n := ds.foldl (fun n c => 16 * n + hexDigitValue c) 0
  if n.isValidChar then some (Char.ofNat n) else none

/-- Reads exactly `n` hexadecimal digits. -/
def readHexDigits (extended : Bool) : Nat → List Char → Except Error (List Char × List Char)
  | 0, cs => .ok ([], cs)
  | _ + 1, [] => .error .unexpectedEnd
  | n + 1, c :: cs =>
    if isHexDigit c then do
      let (ds, rest) ← readHexDigits extended n (skip extended cs)
      return (c :: ds, rest)
    else .error .malformedHex

/-- Reads the digits of a hexadecimal escape, either `width` of them or any number in braces. -/
def readHexRow (extended : Bool) (width : Nat) (cs : List Char) :
    Except Error (List Char × List Char) :=
  match cs with
  | '{' :: cs =>
    match collect extended (· != '}') (skip extended cs) with
    | (_, []) => .error .unexpectedEnd
    | (ds, _ :: rest) => if ds.all isHexDigit then .ok (ds, rest) else .error .malformedHex
  | cs => readHexDigits extended width cs

/-- Reads a hexadecimal escape and the character that it names. -/
def readHex (extended : Bool) (width : Nat) (cs : List Char) : Except Error (Char × List Char) := do
  let (ds, rest) ← readHexRow extended width (skip extended cs)
  if ds.isEmpty then .error .malformedHex
  else
    match hexChar? ds with
    | some c => return (c, rest)
    | none => .error .malformedHex

end PatternGrammar.Regex.Reader
