
/-!
# Literals in normal form

The text between the braces of a literal is turned into a regular expression in which no class
contains a bracket, a backslash or a caret that would be read as more than a character.

Outside of a class, escapes stay as they are, a closing bracket on its own is escaped, and `\u`
without four hexadecimal digits is a backslash and a `u`. Inside a class, the escapes of the
backslash, the brackets, the caret, the newline and the tab, an opening bracket, and a caret that
does not come first are written by code point. A backslash at the very end is a backslash.
-/

namespace PatternGrammar.Literal

/-- Whether a character is a hexadecimal digit. -/
def isHexDigit (c : Char) : Bool :=
  c.isDigit || ('a' ≤ c && c ≤ 'f') || ('A' ≤ c && c ≤ 'F')

/-- A hexadecimal digit in upper case. -/
def hexDigit (n : Nat) : Char :=
  if n < 10 then Char.ofNat (48 + n) else Char.ofNat (55 + n)

/-- The escape that writes a character by its code point, which has at most four digits. -/
def codePoint (c : Char) : List Char :=
  let n := c.toNat
  ['\\', 'u', hexDigit (n / 4096 % 16), hexDigit (n / 256 % 16), hexDigit (n / 16 % 16),
    hexDigit (n % 16)]

/-- What an escape is turned into, other than `\u`, by whether it stands in a class. -/
def escape (inClass : Bool) (c : Char) : List Char :=
  if inClass then
    if c = 'n' then codePoint '\n'
    else if c = 't' then codePoint '\t'
    else if c = '\\' ∨ c = '[' ∨ c = ']' ∨ c = '^' then codePoint c
    else ['\\', c]
  else ['\\', c]

/-- What `\u` is turned into where four hexadecimal digits do not follow. -/
def bareUnit (inClass : Bool) : List Char :=
  if inClass then codePoint '\\' ++ ['u'] else ['\\', '\\', 'u']

/-- Whether a text begins with four hexadecimal digits. -/
def startsWithUnit : List Char → Bool
  | a :: b :: c :: d :: _ => isHexDigit a && isHexDigit b && isHexDigit c && isHexDigit d
  | _ => false

/-- The normal form of the rest of a literal, inside or outside of a class. -/
def normalFrom (inClass : Bool) : List Char → List Char
  | [] => []
  | ['\\'] => ['\\', '\\']
  | '\\' :: 'u' :: rest =>
    if startsWithUnit rest then '\\' :: 'u' :: normalFrom inClass rest
    else bareUnit inClass ++ normalFrom inClass rest
  | '\\' :: c :: rest => escape inClass c ++ normalFrom inClass rest
  | '[' :: rest =>
    if inClass then codePoint '[' ++ normalFrom true rest
    else
      match rest with
      | '^' :: rest => '[' :: '^' :: normalFrom true rest
      | rest => '[' :: normalFrom true rest
  | ']' :: rest =>
    if inClass then ']' :: normalFrom false rest else '\\' :: ']' :: normalFrom false rest
  | '^' :: rest =>
    if inClass then codePoint '^' ++ normalFrom true rest else '^' :: normalFrom false rest
  | c :: rest => c :: normalFrom inClass rest

/-- The normal form of the text of a literal. -/
def normalize (cs : List Char) : List Char :=
  normalFrom false cs

end PatternGrammar.Literal
