import PatternGrammar.Json.Basic

/-!
# Reading JSON

`Json.read?` reads a JSON text. A reading function takes the characters that remain and gives what
it read with the characters after it; the number of characters bounds the number of steps. Numbers
with a fraction or an exponent, and the negative zero, are no integers and keep their text.
-/

namespace PatternGrammar.Json

/-- Whether a character may stand between the parts of a JSON text. -/
def isSpace (c : Char) : Bool :=
  c == ' ' || c == '\n' || c == '\r' || c == '\t'

/-- The value of a hexadecimal digit. -/
def hexValue? (c : Char) : Option Nat :=
  if c.isDigit then some (c.toNat - 48)
  else if 'a' ≤ c && c ≤ 'f' then some (c.toNat - 87)
  else if 'A' ≤ c && c ≤ 'F' then some (c.toNat - 55)
  else none

/-- The number that four hexadecimal digits write. -/
def readUnit? : List Char → Option (Nat × List Char)
  | a :: b :: c :: d :: rest => do
    let a ← hexValue? a
    let b ← hexValue? b
    let c ← hexValue? c
    let d ← hexValue? d
    return (((a * 16 + b) * 16 + c) * 16 + d, rest)
  | _ => none

/-- Reads the digits of a `\u` escape and, after the first half of a surrogate pair, the escape of
its second half. -/
def readCodePoint? (cs : List Char) : Option (Char × List Char) := do
  let (n, rest) ← readUnit? cs
  if 0xD800 ≤ n && n < 0xDC00 then
    match rest with
    | '\\' :: 'u' :: rest =>
      let (m, rest) ← readUnit? rest
      if 0xDC00 ≤ m && m < 0xE000 then
        return (Char.ofNat (0x10000 + (n - 0xD800) * 0x400 + (m - 0xDC00)), rest)
      else none
    | _ => none
  else if 0xDC00 ≤ n && n < 0xE000 then none
  else return (Char.ofNat n, rest)

/-- Reads the rest of a string after its opening quote; `read` holds the characters so far, the
last one first. -/
def readString? : Nat → List Char → List Char → Option (String × List Char)
  | _, read, '"' :: rest => some (String.ofList read.reverse, rest)
  | n + 1, read, '\\' :: c :: rest =>
    if c == '"' || c == '\\' || c == '/' then readString? n (c :: read) rest
    else if c == 'b' then readString? n ('\x08' :: read) rest
    else if c == 'f' then readString? n ('\x0C' :: read) rest
    else if c == 'n' then readString? n ('\n' :: read) rest
    else if c == 'r' then readString? n ('\r' :: read) rest
    else if c == 't' then readString? n ('\t' :: read) rest
    else if c == 'u' then
      match readCodePoint? rest with
      | some (c, rest) => readString? n (c :: read) rest
      | none => none
    else none
  | n + 1, read, c :: rest =>
    if c == '\\' || c.toNat < 32 then none else readString? n (c :: read) rest
  | _, _, _ => none

/-- The number that decimal digits write. -/
def digitsValue (ds : List Char) : Nat :=
  ds.foldl (fun n c => 10 * n + (c.toNat - 48)) 0

/-- The value of the text of a number: digits, perhaps after a sign, are an integer. -/
def numberOf (cs : List Char) : Json :=
  match cs with
  | '-' :: ds =>
    if ds.all Char.isDigit && digitsValue ds != 0 then int (-(digitsValue ds : Int))
    else decimal (String.ofList cs)
  | ds => if ds.all Char.isDigit then int (digitsValue ds) else decimal (String.ofList cs)

/-- Whether a character may stand in a number. -/
def isNumberChar (c : Char) : Bool :=
  c.isDigit || c == '-' || c == '+' || c == '.' || c == 'e' || c == 'E'

/-- The characters after a word, if they begin with it. -/
def afterWord? (word : List Char) (cs : List Char) : Option (List Char) :=
  if word.isPrefixOf cs then some (cs.drop word.length) else none

mutual

/-- Reads a value. -/
def readValue? : Nat → List Char → Option (Json × List Char)
  | 0, _ => none
  | n + 1, cs =>
    match cs.dropWhile isSpace with
    | '"' :: rest => (readString? rest.length [] rest).map fun (s, rest) => (str s, rest)
    | '[' :: rest =>
      match rest.dropWhile isSpace with
      | ']' :: rest => some (arr [], rest)
      | rest => (readItems? n rest).map fun (js, rest) => (arr js, rest)
    | '\x7b' :: rest =>
      match rest.dropWhile isSpace with
      | '\x7d' :: rest => some (obj [], rest)
      | rest => (readFields? n rest).map fun (fs, rest) => (obj fs, rest)
    | 't' :: rest => (afterWord? ['r', 'u', 'e'] rest).map fun rest => (bool true, rest)
    | 'f' :: rest => (afterWord? ['a', 'l', 's', 'e'] rest).map fun rest => (bool false, rest)
    | 'n' :: rest => (afterWord? ['u', 'l', 'l'] rest).map fun rest => (null, rest)
    | c :: rest =>
      if isNumberChar c then
        some (numberOf ((c :: rest).takeWhile isNumberChar), (c :: rest).dropWhile isNumberChar)
      else none
    | [] => none

/-- Reads the items of a list, one at least, and its closing bracket. -/
def readItems? : Nat → List Char → Option (List Json × List Char)
  | 0, _ => none
  | n + 1, cs => do
    let (j, rest) ← readValue? n cs
    match rest.dropWhile isSpace with
    | ',' :: rest =>
      let (js, rest) ← readItems? n rest
      return (j :: js, rest)
    | ']' :: rest => return ([j], rest)
    | _ => none

/-- Reads the fields of an object, one at least, and its closing brace. -/
def readFields? : Nat → List Char → Option (List (String × Json) × List Char)
  | 0, _ => none
  | n + 1, cs => do
    match cs.dropWhile isSpace with
    | '"' :: rest =>
      let (k, rest) ← readString? rest.length [] rest
      match rest.dropWhile isSpace with
      | ':' :: rest =>
        let (j, rest) ← readValue? n rest
        match rest.dropWhile isSpace with
        | ',' :: rest =>
          let (fs, rest) ← readFields? n rest
          return ((k, j) :: fs, rest)
        | '\x7d' :: rest => return ([(k, j)], rest)
        | _ => none
      | _ => none
    | _ => none

end

/-- Reads a JSON text. -/
def read? (s : String) : Option Json :=
  let cs := s.toList
  match readValue? (2 * cs.length + 1) cs with
  | some (j, rest) => if rest.all isSpace then some j else none
  | none => none

end PatternGrammar.Json
