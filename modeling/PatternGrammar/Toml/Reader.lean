import PatternGrammar.Toml.Document
import PatternGrammar.Toml.Scalar

/-!
# Reading TOML

`Toml.parse` reads a document: lines with a key and a value, headers of tables, and comments. The
number of characters bounds the number of steps.
-/

namespace PatternGrammar.Toml

/-- The characters after spaces and tabs. -/
def skipGap (cs : List Char) : List Char :=
  cs.dropWhile fun c => c == ' ' || c == '\t'

/-- The characters after a comment, if one comes first. -/
def skipComment? : List Char → Option (List Char)
  | '#' :: cs =>
    let body := cs.takeWhile fun c => c != '\n' && c != '\r'
    if body.any isControl then none else some (cs.drop body.length)
  | cs => some cs

/-- The characters after the end of a line: blanks, perhaps a comment, and a line break or the end
of the document. -/
def endLine? (cs : List Char) : Option (List Char) := do
  match ← skipComment? (skipGap cs) with
  | [] => return []
  | cs => afterBreak? cs

/-- The characters after blanks, comments and line breaks, which may stand between the items of a
list. -/
def skipLines? : Nat → List Char → Option (List Char)
  | 0, _ => none
  | n + 1, cs => do
    let rest ← skipComment? (skipGap cs)
    match afterBreak? rest with
    | some rest => skipLines? n rest
    | none => return rest

/-- Whether a character may stand in a key without quotes. -/
def isKeyChar (c : Char) : Bool :=
  c.isAlphanum || c == '_' || c == '-'

/-- Reads one name of a key. -/
def readName? (cs : List Char) : Option (String × List Char) :=
  match cs with
  | '"' :: cs => readBasic? cs.length [] cs
  | '\'' :: cs => readLiteral? cs
  | cs =>
    let name := cs.takeWhile isKeyChar
    if name.isEmpty then none else some (String.ofList name, cs.dropWhile isKeyChar)

/-- The number of names in a key, and of lists and tables in braces inside each other, that is too
large. -/
def tooDeep : Nat := 80

/-- Reads a key of at most the given number of names: names with points between them. -/
def readNames? : Nat → List Char → Option (List String × List Char)
  | 0, _ => none
  | n + 1, cs => do
    let (name, cs) ← readName? (skipGap cs)
    match skipGap cs with
    | '.' :: cs =>
      let (names, cs) ← readNames? n cs
      return (name :: names, cs)
    | cs => return ([name], cs)

/-- Reads a key. -/
def readKey? (cs : List Char) : Option (List String × List Char) :=
  readNames? (tooDeep - 1) cs

mutual

/-- Reads a value in at most the given number of steps. `levels` bounds how many lists and tables
in braces may stand inside each other. -/
def readValue? (levels : Nat) : Nat → List Char → Option (Toml × List Char)
  | 0, _ => none
  | n + 1, cs =>
    match levels, cs with
    | 0, '[' :: _ => none
    | 0, '\x7b' :: _ => none
    | levels + 1, '[' :: cs => do
      let (items, cs) ← readItems? levels n cs
      return (.arr items, cs)
    | levels + 1, '\x7b' :: cs =>
      match skipGap cs with
      | '\x7d' :: cs => some (.table [], cs)
      | cs => do
        let (es, cs) ← readPairs? levels n [] cs
        return (.table (entriesToToml es), cs)
    | _, cs => readScalar? cs

/-- Reads the items of a list after its opening bracket. -/
def readItems? (levels : Nat) : Nat → List Char → Option (List Toml × List Char)
  | 0, _ => none
  | n + 1, cs => do
    match ← skipLines? (cs.length + 1) cs with
    | ']' :: cs => return ([], cs)
    | cs =>
      let (item, cs) ← readValue? levels n cs
      match ← skipLines? (cs.length + 1) cs with
      | ',' :: cs =>
        let (items, cs) ← readItems? levels n cs
        return (item :: items, cs)
      | ']' :: cs => return ([item], cs)
      | _ => none

/-- Reads the keys and values of a table in braces, one at least. -/
def readPairs? (levels : Nat) : Nat → Entries → List Char → Option (Entries × List Char)
  | 0, _, _ => none
  | n + 1, es, cs => do
    let (key, cs) ← readKey? cs
    match cs with
    | '=' :: cs =>
      let (v, cs) ← readValue? levels n (skipGap cs)
      let es ← setKey v key es
      match skipGap cs with
      | ',' :: cs => readPairs? levels n es cs
      | '\x7d' :: cs => return (es, cs)
      | _ => none
    | _ => none

end

/-- A document being read: its entries and the path of the table that the next lines belong to. -/
structure Document where
  entries : Entries := []
  path : List String := []

/-- Changes the table that the next lines belong to. -/
def Document.change (d : Document) (f : Entries → Option Entries) : Option Document := do
  return { d with entries := ← atHeader f d.path d.entries }

/-- Reads the rest of a line that opens a table. -/
def readHeader? (d : Document) (cs : List Char) : Option (Document × List Char) :=
  match cs with
  | '[' :: cs => do
    let (key, cs) ← readKey? cs
    match cs with
    | ']' :: ']' :: cs =>
      let entries ← atHeader (openTables (key.getLastD "")) key.dropLast d.entries
      return (⟨entries, key⟩, ← endLine? cs)
    | _ => none
  | cs => do
    let (key, cs) ← readKey? cs
    match cs with
    | ']' :: cs =>
      let entries ← atHeader (openTable (key.getLastD "")) key.dropLast d.entries
      return (⟨entries, key⟩, ← endLine? cs)
    | _ => none

/-- Reads a line with a key and a value. -/
def readPair? (d : Document) (cs : List Char) : Option (Document × List Char) := do
  let (key, cs) ← readKey? cs
  match cs with
  | '=' :: cs =>
    let (v, cs) ← readValue? (tooDeep - 1) (2 * cs.length + 1) (skipGap cs)
    return (← d.change (setKey v key), ← endLine? cs)
  | _ => none

/-- Reads lines, at most the given number of them. -/
def readDocument? : Nat → Document → List Char → Option Document
  | n, d, cs => do
    match ← skipLines? (cs.length + 1) cs with
    | [] => return d
    | c :: cs =>
      match n with
      | 0 => none
      | n + 1 =>
        let (d, rest) ← if c == '[' then readHeader? d cs else readPair? d (c :: cs)
        readDocument? n d rest

/-- Reads a document as the entries of its outermost table. A byte order mark at its start is passed
over. -/
def parse (s : String) : Option (List (String × Toml)) :=
  let cs :=
    match s.toList with
    | '\uFEFF' :: cs => cs
    | cs => cs
  (readDocument? cs.length {} cs).map fun d => entriesToToml d.entries

end PatternGrammar.Toml
