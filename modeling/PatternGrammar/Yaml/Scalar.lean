
/-!
# Strings in YAML

A string of a block is written in the plainest of four styles that a reader takes for the same
string: plain, in single quotes, as a literal block, or in double quotes. A string of several lines
is a literal block; a string that would read as something other than a string is quoted; characters
that cannot stand in a document need escapes and so double quotes.
-/

namespace PatternGrammar.Yaml

/-- Whether a character ends a line. -/
def isBreak (c : Char) : Bool :=
  let n := c.toNat
  n == 0x0A || n == 0x0D || n == 0x85 || n == 0x2028 || n == 0x2029

/-- Whether a character can stand in a document as it is, line ends apart. -/
def isPrintable (c : Char) : Bool :=
  let n := c.toNat
  (0x20 ≤ n && n ≤ 0x7E) || (0xA0 ≤ n && n != 0xFEFF && n != 0xFFFE && n != 0xFFFF)

/-- Whether a character needs an escape. -/
def isSpecial (c : Char) : Bool :=
  c != '\n' && !isPrintable c

/-- A space, a tab, the end of a line, or the end of the string. -/
def isBlankOrEnd : Option Char → Bool
  | none => true
  | some c => c == ' ' || c == '\t' || isBreak c

/-- Whether two neighbours have the properties `p` and `q`, in this order. -/
def hasNeighbours (p q : Char → Bool) : List Char → Bool
  | c :: d :: cs => (p c && q d) || hasNeighbours p q (d :: cs)
  | _ => false

/-- Whether a space stands directly before the end of a line. -/
def hasSpaceBeforeBreak (cs : List Char) : Bool :=
  hasNeighbours (· == ' ') isBreak cs

/-- Whether a line begins with a space. -/
def hasSpaceAfterBreak (cs : List Char) : Bool :=
  hasNeighbours isBreak (· == ' ') cs

/-- The value of a digit in a base up to 36. -/
def digitValue (c : Char) : Nat :=
  if c.isDigit then c.toNat - 48
  else if 'a' ≤ c && c ≤ 'z' then c.toNat - 87
  else if 'A' ≤ c && c ≤ 'Z' then c.toNat - 55
  else 36

/-- The number that digits in a base write, if there are any and all of them are digits. -/
def numberInBase? (base : Nat) (ds : List Char) : Option Nat :=
  if !ds.isEmpty && ds.all fun c => digitValue c < base then
    some (ds.foldl (fun n c => base * n + digitValue c) 0)
  else none

/-- Whether a number without and with a minus sign fits into 128 bits. -/
def fits128 (negative : Bool) (n : Nat) : Bool :=
  if negative then n ≤ Nat.pow 2 127 else n < Nat.pow 2 128

/-- The digits of a number after the mark of its base, with the base. -/
def splitBase : List Char → Nat × List Char
  | '0' :: 'x' :: ds => (16, ds)
  | '0' :: 'o' :: ds => (8, ds)
  | '0' :: 'b' :: ds => (2, ds)
  | ds => (10, ds)

/-- Whether a string reads as an integer. -/
def readsAsInteger (cs : List Char) : Bool :=
  let (negative, unsigned) :=
    match cs with
    | '-' :: cs => (true, cs)
    | '+' :: cs => (false, cs)
    | cs => (false, cs)
  let (base, ds) := splitBase unsigned
  (numberInBase? base ds).any (fits128 negative)

/-- Whether a string is a run of two or more digits that begins with a zero, perhaps after a
sign. -/
def isZeroPadded (cs : List Char) : Bool :=
  let unsigned :=
    match cs with
    | '-' :: cs => cs
    | '+' :: cs => cs
    | cs => cs
  match unsigned with
  | '0' :: ds => !ds.isEmpty && ds.all Char.isDigit
  | _ => false

/-- Whether the characters are a sign or nothing followed by digits, one at least. -/
def isExponent (cs : List Char) : Bool :=
  let ds :=
    match cs with
    | '-' :: cs => cs
    | '+' :: cs => cs
    | cs => cs
  !ds.isEmpty && ds.all Char.isDigit

/-- The number that decimal digits write. -/
def decimalValue (ds : List Char) : Nat :=
  ds.foldl (fun n c => 10 * n + (c.toNat - 48)) 0

/-- The value of the characters of an exponent. -/
def exponentValue : List Char → Int
  | '-' :: ds => -(decimalValue ds : Int)
  | '+' :: ds => decimalValue ds
  | ds => decimalValue ds

/-- Whether digits before and after a decimal point with an exponent stay below the numbers that
overflow to infinity. Digits far to the left of the point decide without their value. -/
def isFinite (whole fraction : List Char) (exponent : Int) : Bool :=
  let digits := (whole ++ fraction).dropWhile (· == '0')
  let scale := exponent - fraction.length
  if digits.isEmpty then true
  else if scale + digits.length ≤ 308 then true
  else if scale + digits.length > 309 then false
  else
    let n := decimalValue digits
    let overflow := Nat.pow 2 1024 - Nat.pow 2 970
    if 0 ≤ scale then n * Nat.pow 10 scale.toNat < overflow
    else n < overflow * Nat.pow 10 (-scale).toNat

/-- Whether a string without sign reads as a finite number: digits with a point among them or not,
one digit at least, and perhaps an exponent. -/
def readsAsUnsignedFloat (cs : List Char) : Bool :=
  let whole := cs.takeWhile Char.isDigit
  let rest := cs.dropWhile Char.isDigit
  let (fraction, rest) :=
    match rest with
    | '.' :: rest => (rest.takeWhile Char.isDigit, rest.dropWhile Char.isDigit)
    | rest => ([], rest)
  if whole.isEmpty && fraction.isEmpty then false
  else
    match rest with
    | [] => isFinite whole fraction 0
    | c :: e =>
      (c == 'e' || c == 'E') && isExponent e && isFinite whole fraction (exponentValue e)

/-- The words for infinities and for what is no number. -/
def specialFloats : List String :=
  [".inf", ".Inf", ".INF", "+.inf", "+.Inf", "+.INF", "-.inf", "-.Inf", "-.INF", ".nan", ".NaN",
    ".NAN"]

/-- Whether a string reads as a number with a fraction or an exponent, or as one of the words for
special numbers. -/
def readsAsFloat (cs : List Char) : Bool :=
  let unsigned :=
    match cs with
    | '-' :: cs => cs
    | '+' :: cs => cs
    | cs => cs
  readsAsUnsignedFloat unsigned || specialFloats.contains (String.ofList cs)

/-- The words for the missing value and the truth values. -/
def reservedWords : List String :=
  ["~", "null", "Null", "NULL", "true", "True", "TRUE", "false", "False", "FALSE"]

/-- Whether a string reads as something other than a string. -/
def isAmbiguous (cs : List Char) : Bool :=
  cs.isEmpty || reservedWords.contains (String.ofList cs) || readsAsInteger cs || isZeroPadded cs
    || readsAsFloat cs

/-- Whether a string can begin a plain scalar. -/
def startsPlain : List Char → Bool
  | [] => false
  | c :: cs =>
    if c == '?' || c == ':' || c == '-' then !isBlankOrEnd cs.head?
    else
      !(c == '#' || c == ',' || c == '[' || c == ']' || c == '\x7b' || c == '\x7d' || c == '&'
        || c == '*' || c == '!' || c == '|' || c == '>' || c == '\'' || c == '"' || c == '%'
        || c == '@' || c == '\x60')

/-- Whether a string holds a colon before a blank or at its end, or a comment mark after a blank.
`before` is the character in front. -/
def hasIndicator (before : Option Char) : List Char → Bool
  | [] => false
  | c :: cs =>
    (c == ':' && isBlankOrEnd cs.head?) || (c == '#' && before.any fun b => isBlankOrEnd (some b))
      || hasIndicator (some c) cs

/-- Whether a string can be written plain. -/
def allowsPlain (cs : List Char) : Bool :=
  startsPlain cs && !(cs.head? == some ' ') && !(cs.getLast? == some ' ')
    && !(['-', '-', '-'].isPrefixOf cs) && !(['.', '.', '.'].isPrefixOf cs)
    && !hasIndicator none cs

/-- The styles of a string. -/
inductive Style where
  | plain
  | singleQuoted
  | doubleQuoted
  | literal
deriving DecidableEq, Repr

/-- The style in which a string is written. -/
def style (cs : List Char) : Style :=
  if cs.any isSpecial || hasSpaceBeforeBreak cs then .doubleQuoted
  else if cs.contains '\n' then (if cs.getLast? == some ' ' then .doubleQuoted else .literal)
  else if hasSpaceAfterBreak cs then .doubleQuoted
  else if isAmbiguous cs || cs.any isBreak || !allowsPlain cs then .singleQuoted
  else .plain

/-- A hexadecimal digit in upper case. -/
def hexDigit (n : Nat) : Char :=
  if n < 10 then Char.ofNat (48 + n) else Char.ofNat (55 + n)

/-- The lowest `width` hexadecimal digits of a number. -/
def hexDigits : Nat → Nat → List Char
  | 0, _ => []
  | width + 1, n => hexDigits width (n / 16) ++ [hexDigit (n % 16)]

/-- The escapes of one letter. -/
def shortEscapes : List (Nat × Char) :=
  [(0x00, '0'), (0x07, 'a'), (0x08, 'b'), (0x09, 't'), (0x0A, 'n'), (0x0B, 'v'), (0x0C, 'f'),
    (0x0D, 'r'), (0x1B, 'e'), (0x22, '"'), (0x5C, '\\'), (0x85, 'N'), (0x2028, 'L'), (0x2029, 'P')]

/-- A character in double quotes. -/
def escapeChar (c : Char) : List Char :=
  match shortEscapes.lookup c.toNat with
  | some letter => ['\\', letter]
  | none =>
    if isPrintable c then [c]
    else if c.toNat ≤ 0xFF then '\\' :: 'x' :: hexDigits 2 c.toNat
    else if c.toNat ≤ 0xFFFF then '\\' :: 'u' :: hexDigits 4 c.toNat
    else '\\' :: 'U' :: hexDigits 8 c.toNat

/-- The header of a literal block: the indentation, where the string does not show it, and what
becomes of line ends at the end. -/
def blockHeader (cs : List Char) : String :=
  let hint := if cs.head?.any fun c => c == ' ' || isBreak c then "2" else ""
  let chomp :=
    match cs.reverse with
    | [c] => if isBreak c then "+" else "-"
    | c :: d :: _ => if !isBreak c then "-" else if isBreak d then "+" else ""
    | [] => "-"
  "|" ++ hint ++ chomp

/-- Lines of a literal block or of a quoted string. Each line that is not empty begins with the
margin, where `fresh` says whether the next character begins a line. -/
def withMargin (margin : List Char) (fresh : Bool) : List Char → List Char
  | [] => []
  | c :: cs =>
    if isBreak c then c :: withMargin margin true cs
    else if fresh then margin ++ c :: withMargin margin false cs
    else c :: withMargin margin false cs

/-- A string in single quotes, in which a single quote is written twice. -/
def singleQuoted (margin cs : List Char) : List Char :=
  let body := withMargin margin false (cs.flatMap fun c => if c = '\'' then ['\'', '\''] else [c])
  '\'' :: body ++ (if cs.getLast?.any isBreak then margin else []) ++ ['\'']

/-- A string whose further lines, if it has any, begin at the given column. -/
def scalar (column : Nat) (s : String) : String :=
  let cs := s.toList
  let margin := List.replicate column ' '
  match style cs with
  | .plain => s
  | .singleQuoted => String.ofList (singleQuoted margin cs)
  | .doubleQuoted => "\"" ++ String.ofList (cs.flatMap escapeChar) ++ "\""
  | .literal => blockHeader cs ++ "\n" ++ String.ofList (withMargin margin true cs)

end PatternGrammar.Yaml
