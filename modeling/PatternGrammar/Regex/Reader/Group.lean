import PatternGrammar.Regex.Reader.Lexical
import PatternGrammar.Regex.Expr
import PatternGrammar.Text.Letter

/-!
# What follows an opening parenthesis

An opening parenthesis begins a capturing group, a group with a name, a group that only applies
flags, or a directive that applies flags to the rest of the group around it.
-/

namespace PatternGrammar.Regex.Reader

open PatternGrammar.Text (isLetter isNumber)

/-- What an opening parenthesis begins. -/
inductive Opening where
  | capture
  | named (name : String)
  | plain (changes : List (Flag × Bool))
  | directive (changes : List (Flag × Bool))
deriving Repr

/-- The flag that a letter stands for. -/
def flag? (c : Char) : Option Flag :=
  if c == 'i' then some .caseless
  else if c == 'm' then some .multiline
  else if c == 's' then some .dotAll
  else if c == 'U' then some .swapGreed
  else if c == 'u' then some .unicode
  else if c == 'R' then some .crlf
  else if c == 'x' then some .extended
  else none

/-- Reads flags up to the colon or the closing parenthesis after them. A hyphen switches the flags
after it off; there is at most one, with a flag after it, and no flag stands twice. `value` is what
the next flag is set to and `dangling` whether a hyphen came last. -/
def readFlagsFor (value dangling : Bool) (seen : List (Flag × Bool)) :
    List Char → Except Error (List (Flag × Bool) × List Char)
  | [] => .error .malformedFlags
  | c :: cs =>
    if c == ':' || c == ')' then
      if dangling then .error .malformedFlags else .ok (seen.reverse, c :: cs)
    else if c == '-' then
      if value then readFlagsFor false true seen cs else .error .malformedFlags
    else
      match flag? c with
      | none => .error .malformedFlags
      | some f =>
        if (seen.map Prod.fst).contains f then .error .malformedFlags
        else readFlagsFor value false ((f, value) :: seen) cs

/-- What flags begin, by what ends them. A directive needs at least one flag. -/
def openingOfFlags (changes : List (Flag × Bool)) :
    List Char → Except Error (Opening × List Char)
  | [] => .error .malformedFlags
  | ':' :: rest => .ok (.plain changes, rest)
  | _ :: rest =>
    if changes.isEmpty then .error .missingOperand else .ok (.directive changes, rest)

/-- Reads flags and what ends them. -/
def readFlags (cs : List Char) : Except Error (Opening × List Char) := do
  let (changes, rest) ← readFlagsFor true false [] cs
  openingOfFlags changes rest

/-- Whether a character may stand in a group name. -/
def isGroupNameChar (first : Bool) (c : Char) : Bool :=
  c == '_' || isLetter c ||
    (!first && (c == '.' || c == '[' || c == ']' || isNumber c))

/-- Reads a group name and the angle bracket after it. -/
def readGroupName (cs : List Char) : Except Error (String × List Char) :=
  let name := cs.takeWhile (· != '>')
  match cs.dropWhile (· != '>'), name with
  | _ :: rest, c :: name =>
    if isGroupNameChar true c && name.all (isGroupNameChar false) then
      .ok (String.ofList (c :: name), rest)
    else .error .malformedGroupName
  | _, _ => .error .malformedGroupName

/-- Reads what follows an opening parenthesis and a question mark. -/
def readMarked : List Char → Except Error (Opening × List Char)
  | '=' :: _ | '!' :: _ | '<' :: '=' :: _ | '<' :: '!' :: _ => .error .lookAround
  | 'P' :: '<' :: rest | '<' :: rest => do
    let (name, rest) ← readGroupName rest
    return (.named name, rest)
  | rest => readFlags rest

/-- Reads what follows an opening parenthesis. -/
def readOpening (extended : Bool) (cs : List Char) : Except Error (Opening × List Char) :=
  match skip extended cs with
  | '?' :: rest => readMarked rest
  | rest => .ok (.capture, rest)

end PatternGrammar.Regex.Reader
