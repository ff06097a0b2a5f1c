import PatternGrammar.Regex.Expr
import PatternGrammar.Regex.Reader.Lexical

/-!
# Escapes

What a backslash and the characters after it stand for. A backslash before an ASCII character that
is neither a letter nor a digit stands for that character, save that `\<` and `\>` are tests for
the two ends of a word; before a letter it needs a meaning of its own.
-/

namespace PatternGrammar.Regex.Reader

/-- A construct that stands alone: a character, a class with a short name, or a test. -/
inductive Atom where
  | literal (c : Char) (byteEscape : Bool)
  | dot
  | assertion (a : Assertion)
  | short (k : ShortClass) (negated : Bool)
  | property (q : Unicode.PropertyQuery) (negated : Bool)
deriving Repr

/-- Splits a row of characters at the first occurrence of `mark`. -/
def splitAtMark (mark : List Char) : List Char → Option (List Char × List Char)
  | [] => none
  | c :: cs =>
    if mark.isPrefixOf (c :: cs) then some ([], (c :: cs).drop mark.length)
    else (splitAtMark mark cs).map fun (before, after) => (c :: before, after)

/-- The property that the text between braces asks for: a name, or a name and a value with one of
the separators between them. The separator `!=` asks for the characters with another value. -/
def propertyQuery (cs : List Char) : Unicode.PropertyQuery × Bool :=
  match splitAtMark ['!', '='] cs with
  | some (name, value) => (.valued (String.ofList name) (String.ofList value), true)
  | none =>
    match splitAtMark [':'] cs <|> splitAtMark ['='] cs with
    | some (name, value) => (.valued (String.ofList name) (String.ofList value), false)
    | none => (.named (String.ofList cs), false)

/-- Reads what follows `\p` and `\P`: the property, and whether characters without it are meant. -/
def readProperty (extended : Bool) (cs : List Char) :
    Except Error (Unicode.PropertyQuery × Bool × List Char) :=
  match skip extended cs with
  | [] => .error .unexpectedEnd
  | '{' :: cs =>
    match collect extended (· != '}') (skip extended cs) with
    | (_, []) => .error .unexpectedEnd
    | (name, _ :: rest) =>
      let (query, negated) := propertyQuery name
      .ok (query, negated, rest)
  | '\\' :: _ => .error .unknownProperty
  | c :: cs => .ok (.named (String.singleton c), false, skip extended cs)

/-- Whether a character may stand in the name of a word boundary. -/
def isBoundaryChar (c : Char) : Bool :=
  c.isAlpha || c == '-'

/-- The word boundaries with names of their own. -/
def namedBoundary? (name : String) : Option Assertion :=
  if name == "start" then some .wordStart
  else if name == "end" then some .wordEnd
  else if name == "start-half" then some .wordStartHalf
  else if name == "end-half" then some .wordEndHalf
  else none

/-- Reads what follows `\b`: the name of a boundary in braces, or nothing. Braces that begin with
another character are left for a count. -/
def readBoundary (extended : Bool) (cs : List Char) : Except Error (Assertion × List Char) :=
  match cs with
  | '{' :: rest =>
    match skip extended rest with
    | [] => .error .unexpectedEnd
    | c :: inner =>
      if isBoundaryChar c then
        match collect extended isBoundaryChar (c :: inner) with
        | (name, '}' :: after) =>
          match namedBoundary? (String.ofList name) with
          | some a => .ok (a, after)
          | none => .error .unknownBoundary
        | _ => .error .unknownBoundary
      else .ok (.wordBoundary, cs)
  | _ => .ok (.wordBoundary, cs)

/-- Reads what follows a backslash. -/
def readEscape (extended : Bool) : List Char → Except Error (Atom × List Char)
  | [] => .error .unexpectedEnd
  | c :: cs =>
    if c.isDigit then .error .backreference
    else if c == 'x' then do
      let (ch, rest) ← readHex extended 2 cs
      return (.literal ch ((skip extended cs).head? != some '{'), rest)
    else if c == 'u' then do
      let (ch, rest) ← readHex extended 4 cs
      return (.literal ch false, rest)
    else if c == 'U' then do
      let (ch, rest) ← readHex extended 8 cs
      return (.literal ch false, rest)
    else if c == 'p' || c == 'P' then do
      let (q, negated, rest) ← readProperty extended cs
      return (.property q (negated != (c == 'P')), rest)
    else if c == 'd' || c == 'D' then .ok (.short .digit (c == 'D'), cs)
    else if c == 's' || c == 'S' then .ok (.short .space (c == 'S'), cs)
    else if c == 'w' || c == 'W' then .ok (.short .word (c == 'W'), cs)
    else if c == 'a' then .ok (.literal '\x07' false, cs)
    else if c == 'f' then .ok (.literal '\x0C' false, cs)
    else if c == 't' then .ok (.literal '\t' false, cs)
    else if c == 'n' then .ok (.literal '\n' false, cs)
    else if c == 'r' then .ok (.literal '\r' false, cs)
    else if c == 'v' then .ok (.literal '\x0B' false, cs)
    else if c == 'A' then .ok (.assertion .textStart, cs)
    else if c == 'z' then .ok (.assertion .textEnd, cs)
    else if c == 'b' then do
      let (a, rest) ← readBoundary extended cs
      return (.assertion a, rest)
    else if c == 'B' then .ok (.assertion .notWordBoundary, cs)
    else if c == '<' then .ok (.assertion .wordStart, cs)
    else if c == '>' then .ok (.assertion .wordEnd, cs)
    else if c.toNat < 0x80 && !c.isAlpha then .ok (.literal c false, cs)
    else .error .unknownEscape

end PatternGrammar.Regex.Reader
