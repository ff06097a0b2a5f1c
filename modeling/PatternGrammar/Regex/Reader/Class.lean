import PatternGrammar.Regex.Reader.Escape

/-!
# Bracketed classes

Reads a class in brackets: literals, ranges, short classes, properties, classes of ASCII characters
by name, classes in brackets again, and the operations `&&`, `--` and `~~` between rows of them.
The operations bind alike and to the left. `ClassFrame` holds what waits for an inner class or for
the right side of an operation.
-/

namespace PatternGrammar.Regex.Reader

open PatternGrammar.Text (isBlank)

/-- What waits for more of a class: the row of items before an opened bracket, the last one first,
or the left side of an operation. -/
inductive ClassFrame where
  | opened (before : List ClassExpr) (negated : Bool)
  | operation (op : SetOp) (left : ClassExpr)

/-- The classes of ASCII characters by name. -/
def asciiClassNames : List (String × AsciiClass) :=
  [
    ("alnum", .alnum), ("alpha", .alpha), ("ascii", .ascii), ("blank", .blank),
    ("cntrl", .cntrl), ("digit", .digit), ("graph", .graph), ("lower", .lower),
    ("print", .print), ("punct", .punct), ("space", .space), ("upper", .upper),
    ("word", .word), ("xdigit", .xdigit)
  ]

/-- Reads the name of a class of ASCII characters and the end of its inner bracket. -/
def readAsciiName? (negated : Bool) (cs : List Char) : Option (ClassExpr × List Char) :=
  match cs.dropWhile (· != ':') with
  | ':' :: ']' :: rest =>
    (asciiClassNames.lookup (String.ofList (cs.takeWhile (· != ':')))).map fun k =>
      (.ascii k negated, rest)
  | _ => none

/-- Reads a class of ASCII characters by name, what follows its opening bracket, if there is one. -/
def readAsciiClass? (cs : List Char) : Option (ClassExpr × List Char) :=
  match cs with
  | ':' :: '^' :: cs => readAsciiName? true cs
  | ':' :: cs => readAsciiName? false cs
  | _ => none

/-- Takes the hyphens at the start of a class as literals. -/
def leadingHyphens (extended : Bool) : Nat → List Char → List ClassExpr × List Char
  | n + 1, '-' :: cs =>
    let (items, rest) := leadingHyphens extended n (skip extended cs)
    (.literal '-' :: items, rest)
  | _, cs => ([], cs)

/-- Reads the caret that negates a class. -/
def readNegation (extended : Bool) : List Char → Bool × List Char
  | '^' :: cs => (true, skip extended cs)
  | cs => (false, cs)

/-- Reads the start of a class after its opening bracket: whether it is negated, and the hyphens or
the closing bracket that stand for themselves because they come first. -/
def openClass (extended : Bool) (cs : List Char) :
    Except Error (Bool × List ClassExpr × List Char) :=
  let (negated, cs) := readNegation extended (skip extended cs)
  match leadingHyphens extended cs.length cs with
  | (_, []) => .error .unclosedClass
  | ([], ']' :: cs) =>
    match skip extended cs with
    | [] => .error .unclosedClass
    | cs => .ok (negated, [.literal ']'], cs)
  | (items, cs) => .ok (negated, items.reverse, cs)

/-- Reads one item of a class, or one end of a range. -/
def readClassAtom (extended : Bool) : List Char → Except Error (Atom × List Char)
  | [] => .error .unclosedClass
  | '\\' :: cs => readEscape extended cs
  | c :: cs => .ok (.literal c false, cs)

/-- An item of a class that stands alone. -/
def Atom.toClassItem : Atom → Except Error ClassExpr
  | .literal c _ => .ok (.literal c)
  | .short k negated => .ok (.short k negated)
  | .property q negated => .ok (.property q negated)
  | .dot | .assertion _ => .error .malformedClassItem

/-- An end of a range. -/
def Atom.toRangeEnd : Atom → Except Error Char
  | .literal c _ => .ok c
  | _ => .error .malformedClassItem

/-- The next character after a hyphen. Where blanks have no meaning they are passed over, and so is
a `#`, but not the comment that it begins. -/
def afterHyphen? (extended : Bool) (cs : List Char) : Option Char :=
  if extended then
    match cs.dropWhile isBlank with
    | '#' :: rest => (rest.dropWhile isBlank).head?
    | rest => rest.head?
  else cs.head?

/-- Reads the end of a range after its hyphen. -/
def readRange (extended : Bool) (first : Atom) (cs : List Char) :
    Except Error (ClassExpr × List Char) := do
  let (last, rest) ← readClassAtom extended (skip extended cs)
  let lo ← first.toRangeEnd
  let hi ← last.toRangeEnd
  if lo ≤ hi then return (.range lo hi, rest) else .error .emptyRange

/-- Reads what makes an item or a range of its first character. A hyphen before the closing bracket
or before another hyphen does not make a range. -/
def readItemFrom (extended : Bool) (first : Atom) (cs : List Char) :
    Except Error (ClassExpr × List Char) :=
  match skip extended cs with
  | [] => .error .unclosedClass
  | '-' :: rest =>
    let next := afterHyphen? extended rest
    if next == some ']' || next == some '-' then do return (← first.toClassItem, '-' :: rest)
    else readRange extended first rest
  | cs => do return (← first.toClassItem, cs)

/-- Reads an item or a range. -/
def readClassItem (extended : Bool) (cs : List Char) : Except Error (ClassExpr × List Char) := do
  let (first, cs) ← readClassAtom extended cs
  readItemFrom extended first cs

/-- Closes the operation on top of the frames, if one waits for its right side. -/
def closeOperation (right : ClassExpr) : List ClassFrame → ClassExpr × List ClassFrame
  | .operation op left :: frames => (.combine op left right, frames)
  | frames => (right, frames)

/-- The operation that two characters write. -/
def setOp? : List Char → Option (SetOp × List Char)
  | '&' :: '&' :: cs => some (.intersection, cs)
  | '-' :: '-' :: cs => some (.difference, cs)
  | '~' :: '~' :: cs => some (.symmetricDifference, cs)
  | _ => none

/-- Reads a class to the bracket that closes the outermost frame. `items` are the items of the
current row, the last one first. -/
def readClassFor (extended : Bool) :
    Nat → List ClassFrame → List ClassExpr → List Char → Except Error (ClassExpr × List Char)
  | 0, _, _, _ => .error .unclosedClass
  | n + 1, frames, items, cs =>
    match skip extended cs with
    | [] => .error .unclosedClass
    | ']' :: rest =>
      match closeOperation (ClassExpr.ofItems items.reverse) frames with
      | (body, .opened _ negated :: []) => .ok (.bracketed negated body, rest)
      | (body, .opened before negated :: frames) =>
        readClassFor extended n frames (.bracketed negated body :: before) rest
      | _ => .error .unclosedClass
    | '[' :: rest =>
      match readAsciiClass? rest with
      | some (item, rest) => readClassFor extended n frames (item :: items) rest
      | none => do
        let (negated, first, rest) ← openClass extended rest
        readClassFor extended n (.opened items negated :: frames) first rest
    | cs =>
      match setOp? cs with
      | some (op, rest) =>
        let (left, frames) := closeOperation (ClassExpr.ofItems items.reverse) frames
        readClassFor extended n (.operation op left :: frames) [] rest
      | none => do
        let (item, rest) ← readClassItem extended cs
        readClassFor extended n frames (item :: items) rest

/-- Reads a class after its opening bracket. -/
def readClass (extended : Bool) (cs : List Char) : Except Error (ClassExpr × List Char) := do
  let (negated, items, rest) ← openClass extended cs
  readClassFor extended (rest.length + 1) [.opened [] negated] items rest

end PatternGrammar.Regex.Reader
