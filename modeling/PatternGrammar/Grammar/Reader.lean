import PatternGrammar.Description.Reader
import PatternGrammar.Grammar.Basic
import PatternGrammar.Grammar.Lines

/-!
# Reading grammars

A grammar is written with one rule on a line, a name and a description with `:=` between them.
Blank lines and lines that begin with `#` say nothing. Reading stops at the first line that is no
rule, or that is not UTF-8 where the grammar comes as bytes; lines are counted from 1.

Main definitions: `Rule.readLine`, `Grammar.parse`, `Grammar.parseBytes`.
-/

namespace PatternGrammar

open PatternGrammar.Text (trimChars isName isNameChar)

/-- Why a line is not a rule. -/
inductive LineFault where
  /-- The line is not of the form `name := description`. -/
  | notADefinition
  /-- The description cannot be read. -/
  | description (e : DescriptionError)
deriving DecidableEq, Repr, Inhabited

/-- The message of a fault. -/
def LineFault.message : LineFault → String
  | notADefinition => "expected 'name := description'"
  | description e => e.message

/-- A line that is not a rule: its number, its text and its fault. -/
structure LineError where
  number : Nat
  line : String
  fault : LineFault
deriving DecidableEq, Repr, Inhabited

/-- The message of an error. The line is shown without the blanks at its ends. -/
def LineError.message (e : LineError) : String :=
  "Syntax error on line " ++ toString e.number ++ ": " ++ e.fault.message ++ " in '"
    ++ Text.trim e.line ++ "'"

/-- Why a source could not be read at all. -/
inductive SourceFault where
  | notFound
  | isDirectory
  | notADirectory
  | notUtf8
deriving DecidableEq, Repr, Inhabited

/-- The message of a fault. -/
def SourceFault.message : SourceFault → String
  | notFound => "No such file or directory (os error 2)"
  | isDirectory => "Is a directory (os error 21)"
  | notADirectory => "Not a directory (os error 20)"
  | notUtf8 => "stream did not contain valid UTF-8"

/-- Why a grammar cannot be read. -/
inductive ReadError where
  | line (e : LineError)
  | source (e : SourceFault)
deriving DecidableEq, Repr, Inhabited

/-- The message of an error. -/
def ReadError.message : ReadError → String
  | line e => e.message
  | source e => "Failed to read grammar: " ++ e.message

/-- Splits a definition at its `:=`, with spaces and tabs around it left out. -/
def splitDefinition? (cs : List Char) : Option (List Char × List Char) :=
  let name := cs.takeWhile isNameChar
  match (cs.dropWhile isNameChar).dropWhile Description.isGap with
  | ':' :: '=' :: rest =>
    if isName name then some (name, rest.dropWhile Description.isGap) else none
  | _ => none

/-- Reads a line. The result is `none` for a line that says nothing. -/
def Rule.readLine (line : List Char) : Except LineFault (Option Rule) :=
  match trimChars line with
  | [] => .ok none
  | '#' :: _ => .ok none
  | cs =>
    match splitDefinition? cs with
    | none => .error .notADefinition
    | some (name, text) =>
      match Description.readChars (trimChars text) with
      | .ok d => .ok (some ⟨String.ofList name, d⟩)
      | .error e => .error (.description e)

namespace Grammar

/-- Reads lines, the first of which has the given number. Each line comes as text or as the fault
for which it could not be read. -/
def readLines (number : Nat) : List (Except SourceFault (List Char)) → Except ReadError (List Rule)
  | [] => .ok []
  | .error e :: _ => .error (.source e)
  | .ok line :: lines =>
    match Rule.readLine line with
    | .error fault => .error (.line ⟨number, String.ofList line, fault⟩)
    | .ok none => readLines (number + 1) lines
    | .ok (some r) => do return r :: (← readLines (number + 1) lines)

/-- Reads a grammar. -/
def parse (source : String) : Except ReadError Grammar := do
  return ⟨← readLines 1 ((Lines.split '\n' '\r' [] source.toList).map .ok)⟩

/-- The text of a row of bytes. -/
def decode (bytes : List UInt8) : Except SourceFault String :=
  match String.fromUTF8? (ByteArray.mk bytes.toArray) with
  | some s => .ok s
  | none => .error .notUtf8

/-- Reads a grammar that comes as bytes. -/
def parseBytes (bytes : List UInt8) : Except ReadError Grammar := do
  let lines := (Lines.split 10 13 [] bytes).map fun line => (decode line).map String.toList
  return ⟨← readLines 1 lines⟩

/-- The rules that are read before reading ends, with the numbers of their lines. -/
def rulesRead (number : Nat) : List (Except SourceFault (List Char)) → List (Nat × Rule)
  | .ok line :: lines =>
    match Rule.readLine line with
    | .error _ => []
    | .ok none => rulesRead (number + 1) lines
    | .ok (some r) => (number, r) :: rulesRead (number + 1) lines
  | _ => []

end Grammar

end PatternGrammar
