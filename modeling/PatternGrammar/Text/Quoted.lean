import PatternGrammar.Text.Printable

/-!
# Texts made visible

How a text is shown in listings and messages. Quotes, backslashes and a few control characters are
escaped by a backslash and a letter; characters that cannot be printed, and marks that would
combine with what stands before them, by their code point in braces.

Main definitions: `escapeText` for listings, `quoteText` for messages.
-/

namespace PatternGrammar.Text

/-- The hexadecimal digits of a number in lower case, without leading zeros. -/
def hexText (n : Nat) : List Char :=
  Nat.toDigits 16 n

/-- The escape of a character by its code point. -/
def codePointEscape (c : Char) : List Char :=
  ['\\', 'u', '\x7b'] ++ hexText c.toNat ++ ['\x7d']

/-- Which characters an escape replaces, beside those that cannot be printed. -/
structure EscapeOptions where
  /-- The single quote. -/
  singleQuote : Bool
  /-- Characters that extend the one before them. -/
  extending : Bool

/-- A character as it is shown. -/
def escapeChar (options : EscapeOptions) (c : Char) : List Char :=
  if c = '\x00' then ['\\', '0']
  else if c = '\t' then ['\\', 't']
  else if c = '\r' then ['\\', 'r']
  else if c = '\n' then ['\\', 'n']
  else if c = '\\' then ['\\', '\\']
  else if c = '"' then ['\\', '"']
  else if c = '\'' ∧ options.singleQuote then ['\\', '\'']
  else if options.extending && isExtending c then codePointEscape c
  else if isPrintable c then [c]
  else codePointEscape c

/-- The characters of a text for listings. An extending character is shown as it is, save at the
start, where there is nothing to extend. -/
def escapeText : List Char → List Char
  | [] => []
  | c :: cs => escapeChar ⟨true, true⟩ c ++ cs.flatMap (escapeChar ⟨true, false⟩)

/-- A text in double quotes for messages. -/
def quoteText (s : String) : String :=
  "\"" ++ String.ofList (s.toList.flatMap (escapeChar ⟨false, true⟩)) ++ "\""

end PatternGrammar.Text
