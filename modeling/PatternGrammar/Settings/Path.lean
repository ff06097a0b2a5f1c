import PatternGrammar.Toml.Basic

/-!
# Paths to settings

A path leads from a table to a value by names of entries and numbers of items, as in `output.format`
and `output[0]`. `setAt` lays a value over what stands at the end of a path and makes the tables and
lists on the way that are not there. The case of ASCII letters in names makes no difference.

Main definitions: `PathStep.parse?`, `overlay`, `setAt`.
-/

namespace PatternGrammar.Settings

/-- A step on the way to a value: to the entry of a table, or to an item of a list, which is counted
from the end if its number is negative. -/
inductive PathStep where
  | entry (name : String)
  | item (number : Int)
deriving DecidableEq, Repr

/-- The way from a table to a value. -/
abbrev Path := List PathStep

namespace PathStep

/-- Whether a character may stand in one of the names of a path. -/
def isNameChar (c : Char) : Bool :=
  c.isAlphanum || c == ' ' || c == '_' || c == '-'

/-- Whether a character is a blank inside brackets. -/
def isGap (c : Char) : Bool :=
  c == ' ' || c == '\t'

/-- Reads a name, and gives what follows it. -/
def readName? (cs : List Char) : Option (PathStep × List Char) :=
  let name := cs.takeWhile isNameChar
  if name.isEmpty then none else some (entry (String.ofList name), cs.dropWhile isNameChar)

/-- Reads the number of an item and the bracket behind it, and gives what follows. -/
def readItem? (cs : List Char) : Option (PathStep × List Char) :=
  let (negative, cs) :=
    match cs.dropWhile isGap with
    | '-' :: cs => (true, cs)
    | cs => (false, cs)
  let digits := cs.takeWhile Char.isDigit
  let n : Int := digits.foldl (fun n c => 10 * n + (c.toNat - 48 : Nat)) 0
  let n := if negative then -n else n
  match (cs.dropWhile Char.isDigit).dropWhile isGap with
  | ']' :: rest =>
    if digits.isEmpty || n < Int64.minValue.toInt || Int64.maxValue.toInt < n then none
    else some (item n, rest)
  | _ => none

/-- Reads the steps behind the first one, at most the given number of them. -/
def readRest? : Nat → List Char → Option Path
  | _, [] => some []
  | n + 1, '.' :: cs => do
    let (step, cs) ← readName? cs
    return step :: (← readRest? n cs)
  | n + 1, '[' :: cs => do
    let (step, cs) ← readItem? cs
    return step :: (← readRest? n cs)
  | _, _ => none

/-- The path that a text writes: a name, and then names behind points and numbers in brackets. -/
def parse? (text : String) : Option Path := do
  let (step, cs) ← readName? text.toList
  return step :: (← readRest? cs.length cs)

end PathStep

/-- A name with its ASCII letters in lower case. -/
def foldName (name : String) : String :=
  String.ofList (name.toList.map Char.toLower)

/-- Puts a value in the place of the one with its name, or at the end. -/
def put (name : String) (v : Toml) : List (String × Toml) → List (String × Toml)
  | [] => [(name, v)]
  | (n, old) :: rest => if n = name then (n, v) :: rest else (n, old) :: put name v rest

/-- What stands where nothing was set. No setting can be read from it. -/
def unset : Toml := .arr []

/-- The entries of a value that is a table, and none for any other. -/
def entriesOf : Toml → List (String × Toml)
  | .table es => es
  | _ => []

/-- The items of a value that is a list, and none for any other. -/
def itemsOf : Toml → List Toml
  | .arr items => items
  | _ => []

/-- Puts a value in the place of an item. A list that is too short is made longer. -/
def putItem (i : Nat) (v : Toml) (items : List Toml) : List Toml :=
  items.take i ++ List.replicate (i - items.length) unset ++ v :: items.drop (i + 1)

mutual

/-- Lays a value with a name over the entries of a table. A table is laid over a table entry by
entry, and one without entries changes nothing. -/
def overlay (name : String) (es : List (String × Toml)) : Toml → List (String × Toml)
  | .table inner =>
    match es.lookup (foldName name) with
    | none => put (foldName name) (.table (overlayAll [] inner)) es
    | some old =>
      if inner.isEmpty then es
      else put (foldName name) (.table (overlayAll (entriesOf old) inner)) es
  | v => put (foldName name) v es

/-- Lays entries over the entries of a table. -/
def overlayAll (es : List (String × Toml)) : List (String × Toml) → List (String × Toml)
  | [] => es
  | (n, v) :: rest => overlayAll (overlay n es v) rest

end

/-- Lays a value over what stands at the end of a path, where an item of a list gives way to it. A
value on the way that is not of the right kind gives way to a table or a list. -/
def setAt (v : Toml) : Path → Toml → Toml
  | [], _ => v
  | [.entry name], old => .table (overlay name (entriesOf old) v)
  | .entry name :: path, old =>
    let es := entriesOf old
    .table (put (foldName name) (setAt v path ((es.lookup (foldName name)).getD unset)) es)
  | .item number :: path, old =>
    let items := itemsOf old
    let i := if number < 0 then (items.length + number).toNat else number.toNat
    .arr (putItem i (setAt v path (items.getD i unset)) items)

end PatternGrammar.Settings
