import PatternGrammar.Toml.Basic

/-!
# Scalars of TOML

Reading strings, numbers, truth values, dates and times. A reading function takes the characters
that remain and gives what it read with the characters after it, or nothing if the text is not well
formed.
-/

namespace PatternGrammar.Toml

/-- A control character, which may stand nowhere. -/
def isControl (c : Char) : Bool :=
  (c.toNat < 32 && c != '\t') || c.toNat == 127

/-- The characters after a line break, if one comes first. -/
def afterBreak? : List Char → Option (List Char)
  | '\n' :: cs => some cs
  | '\r' :: '\n' :: cs => some cs
  | _ => none

/-- The value of a digit in a base up to 16. -/
def digit? (base : Nat) (c : Char) : Option Nat :=
  let n :=
    if c.isDigit then c.toNat - 48
    else if 'a' ≤ c && c ≤ 'f' then c.toNat - 87
    else if 'A' ≤ c && c ≤ 'F' then c.toNat - 55
    else 16
  if n < base then some n else none

/-- The number that digits in a base write. -/
def number (base : Nat) (ds : List Char) : Nat :=
  ds.foldl (fun n c => base * n + (digit? base c).getD 0) 0

/-- Reads exactly `width` hexadecimal digits as the code point of a character. -/
def readCodePoint? (width : Nat) (cs : List Char) : Option (Char × List Char) :=
  let ds := cs.take width
  if ds.length == width && ds.all (fun c => (digit? 16 c).isSome) then
    let n := number 16 ds
    if n.isValidChar then some (Char.ofNat n, cs.drop width) else none
  else none

/-- Reads what follows a backslash in a string. -/
def readEscape? : List Char → Option (Char × List Char)
  | 'b' :: cs => some ('\x08', cs)
  | 't' :: cs => some ('\t', cs)
  | 'n' :: cs => some ('\n', cs)
  | 'f' :: cs => some ('\x0C', cs)
  | 'r' :: cs => some ('\r', cs)
  | '"' :: cs => some ('"', cs)
  | '\\' :: cs => some ('\\', cs)
  | 'u' :: cs => readCodePoint? 4 cs
  | 'U' :: cs => readCodePoint? 8 cs
  | _ => none

/-- Reads a string on one line after its opening quote. `read` holds the characters so far, the last
one first. -/
def readBasic? : Nat → List Char → List Char → Option (String × List Char)
  | _, read, '"' :: cs => some (String.ofList read.reverse, cs)
  | n + 1, read, '\\' :: cs => do
    let (c, cs) ← readEscape? cs
    readBasic? n (c :: read) cs
  | n + 1, read, c :: cs => if isControl c then none else readBasic? n (c :: read) cs
  | _, _, _ => none

/-- Reads a literal string on one line after its opening quote. -/
def readLiteral? (cs : List Char) : Option (String × List Char) :=
  let body := cs.takeWhile (· != '\'')
  match cs.dropWhile (· != '\'') with
  | _ :: rest => if body.any isControl then none else some (String.ofList body, rest)
  | [] => none

/-- The characters after blanks and line breaks. -/
def skipBreaks : List Char → List Char
  | ' ' :: cs => skipBreaks cs
  | '\t' :: cs => skipBreaks cs
  | '\n' :: cs => skipBreaks cs
  | '\r' :: '\n' :: cs => skipBreaks cs
  | cs => cs

/-- The characters after the blanks and line breaks that a backslash at the end of a line takes
away. -/
def afterLineEnd? (cs : List Char) : Option (List Char) :=
  (afterBreak? (cs.dropWhile fun c => c == ' ' || c == '\t')).map skipBreaks

/-- The quotes at the end of a string of several lines: three close it, and one or two in front of
them belong to it. -/
def closingQuotes? (quote : Char) (cs : List Char) : Option (List Char × List Char) :=
  let quotes := Nat.min (cs.takeWhile (· == quote)).length 5
  if 3 ≤ quotes then some (List.replicate (quotes - 3) quote, cs.drop quotes) else none

/-- Reads a string of several lines after its opening quotes. `escapes` says whether backslashes
have a meaning. -/
def readLines? (quote : Char) (escapes : Bool) :
    Nat → List Char → List Char → Option (String × List Char)
  | 0, _, _ => none
  | n + 1, read, cs =>
    match closingQuotes? quote cs with
    | some (inner, rest) => some (String.ofList (read.reverse ++ inner), rest)
    | none =>
      match afterBreak? cs with
      | some rest => readLines? quote escapes n ('\n' :: read) rest
      | none =>
        match cs with
        | [] => none
        | c :: rest =>
          if c == '\\' && escapes then
            match afterLineEnd? rest with
            | some rest => readLines? quote escapes n read rest
            | none => do
              let (c, rest) ← readEscape? rest
              readLines? quote escapes n (c :: read) rest
          else if isControl c then none
          else readLines? quote escapes n (c :: read) rest

/-- Reads a string of several lines after its opening quotes; a line break directly after them does
not belong to it. -/
def readMultiline? (quote : Char) (escapes : Bool) (cs : List Char) :
    Option (String × List Char) :=
  readLines? quote escapes (cs.length + 1) [] ((afterBreak? cs).getD cs)

/-- Reads a string. -/
def readString? : List Char → Option (String × List Char)
  | '"' :: '"' :: '"' :: cs => readMultiline? '"' true cs
  | '\'' :: '\'' :: '\'' :: cs => readMultiline? '\'' false cs
  | '"' :: cs => readBasic? cs.length [] cs
  | '\'' :: cs => readLiteral? cs
  | _ => none

/-- The digits of a number without the underscores in it, each of which stands between two digits;
there is one digit at least. -/
def digits? (base : Nat) : List Char → Option (List Char)
  | [] => none
  | [c] => if (digit? base c).isSome then some [c] else none
  | c :: '_' :: cs => do
    if (digit? base c).isSome then return c :: (← digits? base cs) else none
  | c :: cs => do
    if (digit? base c).isSome then return c :: (← digits? base cs) else none

/-- The digits of a decimal number, which begins with a zero only if that is all of it. -/
def decimalDigits? (cs : List Char) : Option (List Char) := do
  let ds ← digits? 10 cs
  match ds with
  | '0' :: _ :: _ => none
  | ds => return ds

/-- The value of an integer that fits into 64 bits. -/
def int64? (n : Int) : Option Toml :=
  if Int64.minValue.toInt ≤ n && n ≤ Int64.maxValue.toInt then some (.int n) else none

/-- The sign in front of a number, and the rest. -/
def splitSign : List Char → Bool × List Char
  | '-' :: cs => (true, cs)
  | '+' :: cs => (false, cs)
  | cs => (false, cs)

/-- The value of the characters of an integer. -/
def integer? (cs : List Char) : Option Toml :=
  match cs with
  | '0' :: 'x' :: ds => do int64? (number 16 (← digits? 16 ds))
  | '0' :: 'o' :: ds => do int64? (number 8 (← digits? 8 ds))
  | '0' :: 'b' :: ds => do int64? (number 2 (← digits? 2 ds))
  | cs => do
    let (negative, ds) := splitSign cs
    let n := number 10 (← decimalDigits? ds)
    int64? (if negative then -(n : Int) else n)

/-- The value of the characters of an exponent. -/
def exponent? (cs : List Char) : Option Int := do
  let (negative, ds) := splitSign cs
  let n := number 10 (← digits? 10 ds)
  return if negative then -(n : Int) else n

/-- The value of the characters of a number with a fraction, an exponent or both. A positive number
that is too large is refused. -/
def float? (cs : List Char) : Option Toml := do
  let (negative, unsigned) := splitSign cs
  if unsigned == ['i', 'n', 'f'] then return .float (.infinite negative)
  else if unsigned == ['n', 'a', 'n'] then return .float .notANumber
  else
    let isMark (c : Char) : Bool := c == 'e' || c == 'E'
    let mantissa := unsigned.takeWhile fun c => !isMark c
    if !unsigned.any fun c => c == '.' || isMark c then none
    let e ←
      match unsigned.dropWhile fun c => !isMark c with
      | [] => some 0
      | _ :: cs => exponent? cs
    let whole ← decimalDigits? (mantissa.takeWhile (· != '.'))
    let fraction ←
      match mantissa.dropWhile (· != '.') with
      | [] => some []
      | _ :: cs => digits? 10 cs
    match Double.ofDecimal negative (number 10 (whole ++ fraction)) (e - fraction.length) with
    | .infinite false => none
    | d => return .float d

/-- Whether characters are digits in groups of the given widths with the given characters between
them. -/
def matchesShape : List Char → List Char → Bool
  | [], [] => true
  | '0' :: shape, c :: cs => c.isDigit && matchesShape shape cs
  | s :: shape, c :: cs => s == c && matchesShape shape cs
  | _, _ => false

/-- Whether the characters are a date. -/
def isDate (cs : List Char) : Bool :=
  let month := number 10 ((cs.drop 5).take 2)
  let day := number 10 ((cs.drop 8).take 2)
  let year := number 10 (cs.take 4)
  let leap := (year % 4 == 0 && year % 100 != 0) || year % 400 == 0
  let days :=
    if month == 2 then (if leap then 29 else 28)
    else if month == 4 || month == 6 || month == 9 || month == 11 then 30
    else 31
  matchesShape ['0', '0', '0', '0', '-', '0', '0', '-', '0', '0'] cs
    && 1 ≤ month && month ≤ 12 && 1 ≤ day && day ≤ days

/-- Whether the characters are a time. -/
def isTime (cs : List Char) : Bool :=
  let fraction := cs.drop 8
  matchesShape ['0', '0', ':', '0', '0', ':', '0', '0'] (cs.take 8)
    && number 10 (cs.take 2) ≤ 23 && number 10 ((cs.drop 3).take 2) ≤ 59
    && number 10 ((cs.drop 6).take 2) ≤ 60
    && (match fraction with
        | [] => true
        | '.' :: ds => !ds.isEmpty && ds.all Char.isDigit
        | _ => false)

/-- Whether the characters are the offset of a time. -/
def isOffset (cs : List Char) : Bool :=
  match cs with
  | ['Z'] | ['z'] => true
  | '+' :: cs | '-' :: cs =>
    matchesShape ['0', '0', ':', '0', '0'] cs && number 10 (cs.take 2) ≤ 23
      && number 10 (cs.drop 3) ≤ 59
  | _ => false

/-- The characters of a time in front of its offset. -/
def isTimeChar (c : Char) : Bool :=
  c.isDigit || c == ':' || c == '.'

/-- A time with at most nine digits of a fraction, without zeros at its end. -/
def timeText (cs : List Char) : List Char :=
  match (((cs.drop 9).take 9).reverse.dropWhile (· == '0')).reverse with
  | [] => cs.take 8
  | fraction => cs.take 8 ++ '.' :: fraction

/-- The offset of a time. The sign of no offset is a plus. -/
def offsetText (cs : List Char) : List Char :=
  match cs with
  | ['z'] => ['Z']
  | '-' :: cs => if cs.all fun c => c == '0' || c == ':' then '+' :: cs else '-' :: cs
  | cs => cs

/-- The text of the characters of a date, a time, or both. -/
def datetime? (cs : List Char) : Option Toml :=
  if isTime cs then some (.str (String.ofList (timeText cs)))
  else if isDate (cs.take 10) then
    match cs.drop 10 with
    | [] => some (.str (String.ofList cs))
    | mark :: rest =>
      let time := rest.takeWhile isTimeChar
      let offset := rest.dropWhile isTimeChar
      if (mark == 'T' || mark == 't' || mark == ' ') && isTime time
          && (offset.isEmpty || isOffset offset) then
        some (.str (String.ofList (cs.take 10 ++ 'T' :: timeText time ++ offsetText offset)))
      else none
  else none

/-- The characters that a number, a date, a time or a word is made of. -/
def isWordChar (c : Char) : Bool :=
  c.isAlphanum || c == '_' || c == '+' || c == '-' || c == '.' || c == ':'

/-- The characters of a number, a date, a time or a word, and the rest. A space may stand between a
date and a time. -/
def takeWord (cs : List Char) : List Char × List Char :=
  let word := cs.takeWhile isWordChar
  match cs.dropWhile isWordChar with
  | ' ' :: c :: rest =>
    if isDate word && c.isDigit then
      (word ++ ' ' :: (c :: rest).takeWhile isWordChar, (c :: rest).dropWhile isWordChar)
    else (word, ' ' :: c :: rest)
  | rest => (word, rest)

/-- Reads a scalar. -/
def readScalar? (cs : List Char) : Option (Toml × List Char) :=
  match readString? cs with
  | some (s, rest) => some (.str s, rest)
  | none =>
    let (word, rest) := takeWord cs
    let value :=
      if word == ['t', 'r', 'u', 'e'] then some (.bool true)
      else if word == ['f', 'a', 'l', 's', 'e'] then some (.bool false)
      else integer? word <|> float? word <|> datetime? word
    value.map fun v => (v, rest)

end PatternGrammar.Toml
