import PatternGrammar.Json.Basic

/-!
# Writing JSON

`Json.pretty` writes a value over several lines, two columns deeper for each level, with every item
and field on a line of its own and empty lists and objects on the line they begin on. `Json.compact`
writes a value on one line without blanks.
-/

namespace PatternGrammar.Json

/-- A hexadecimal digit in lower case. -/
def hexDigit (n : Nat) : Char :=
  if n < 10 then Char.ofNat (48 + n) else Char.ofNat (87 + n)

/-- A character of a string. The quote, the backslash and the characters below the space are
escaped. -/
def escapeChar (c : Char) : List Char :=
  if c = '"' then ['\\', '"']
  else if c = '\\' then ['\\', '\\']
  else if c = '\x08' then ['\\', 'b']
  else if c = '\x0C' then ['\\', 'f']
  else if c = '\n' then ['\\', 'n']
  else if c = '\r' then ['\\', 'r']
  else if c = '\t' then ['\\', 't']
  else if c.toNat < 32 then
    ['\\', 'u', '0', '0', hexDigit (c.toNat / 16), hexDigit (c.toNat % 16)]
  else [c]

/-- A string in quotes. -/
def quoted (s : String) : String :=
  "\"" ++ String.ofList (s.toList.flatMap escapeChar) ++ "\""

/-- An integer. -/
def intText (n : Int) : String :=
  match n with
  | .ofNat n => toString n
  | .negSucc n => "-" ++ toString (n + 1)

/-- A line break followed by the blanks of a level. -/
def newline (level : Nat) : String :=
  String.ofList ('\n' :: List.replicate (2 * level) ' ')

mutual

/-- A value over several lines whose own line stands at the given level. -/
def prettyAt (level : Nat) : Json → String
  | null => "null"
  | bool b => if b then "true" else "false"
  | int n => intText n
  | decimal s => s
  | str s => quoted s
  | arr [] => "[]"
  | arr (j :: js) => "[" ++ prettyItems (level + 1) (j :: js) ++ newline level ++ "]"
  | obj [] => "\x7b\x7d"
  | obj (f :: fs) => "\x7b" ++ prettyFields (level + 1) (f :: fs) ++ newline level ++ "\x7d"

/-- The items of a list, each on a line of its own. -/
def prettyItems (level : Nat) : List Json → String
  | [] => ""
  | [j] => newline level ++ prettyAt level j
  | j :: js => newline level ++ prettyAt level j ++ "," ++ prettyItems level js

/-- The fields of an object, each on a line of its own. -/
def prettyFields (level : Nat) : List (String × Json) → String
  | [] => ""
  | [(k, j)] => newline level ++ quoted k ++ ": " ++ prettyAt level j
  | (k, j) :: fs =>
    newline level ++ quoted k ++ ": " ++ prettyAt level j ++ "," ++ prettyFields level fs

end

/-- A value over several lines. -/
def pretty (j : Json) : String := prettyAt 0 j

mutual

/-- A value on one line. -/
def compact : Json → String
  | null => "null"
  | bool b => if b then "true" else "false"
  | int n => intText n
  | decimal s => s
  | str s => quoted s
  | arr js => "[" ++ compactItems js ++ "]"
  | obj fs => "\x7b" ++ compactFields fs ++ "\x7d"

/-- The items of a list on one line. -/
def compactItems : List Json → String
  | [] => ""
  | [j] => compact j
  | j :: js => compact j ++ "," ++ compactItems js

/-- The fields of an object on one line. -/
def compactFields : List (String × Json) → String
  | [] => ""
  | [(k, j)] => quoted k ++ ":" ++ compact j
  | (k, j) :: fs => quoted k ++ ":" ++ compact j ++ "," ++ compactFields fs

end

end PatternGrammar.Json
