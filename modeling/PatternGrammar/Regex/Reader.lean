import PatternGrammar.Regex.Reader.Class
import PatternGrammar.Regex.Reader.Group

/-!
# Reading regular expressions

`Expr.read` reads a regular expression part by part. Groups that are still open wait on a stack of
`GroupFrame`s; `State` holds the row of expressions that is being read, the alternatives before it
in the innermost open group, and the groups around it. Each step takes at least one character, so
the length of the text bounds the number of steps.
-/

namespace PatternGrammar.Regex.Reader

/-- A group that is open: its kind, whether blanks had no meaning before it, and the row and the
alternatives in front of it, the last ones first. -/
structure GroupFrame where
  kind : GroupKind
  extended : Bool
  items : List Expr
  branches : List Expr

/-- What has been read: the current row and the alternatives before it, the last ones first, the
open groups from the innermost, whether blanks have no meaning, and the groups counted so far with
their names. -/
structure State where
  items : List Expr := []
  branches : List Expr := []
  frames : List GroupFrame := []
  extended : Bool := false
  groups : Nat := 0
  names : List String := []

namespace State

/-- Adds an expression to the current row. -/
def push (st : State) (e : Expr) : State :=
  { st with items := e :: st.items }

/-- The expression that the current row and the alternatives before it make up. -/
def body (st : State) : Expr :=
  Expr.ofAlternatives ((Expr.ofSequence st.items.reverse :: st.branches).reverse)

/-- Starts the next alternative. -/
def nextBranch (st : State) : State :=
  { st with items := [], branches := Expr.ofSequence st.items.reverse :: st.branches }

/-- Opens a group. -/
def openGroup (st : State) (kind : GroupKind) (extended : Bool) : State :=
  { st with
    items := []
    branches := []
    extended := extended
    frames := ⟨kind, st.extended, st.items, st.branches⟩ :: st.frames }

/-- Closes the innermost open group. -/
def closeGroup (st : State) : Except Error State :=
  match st.frames with
  | [] => .error .unopenedGroup
  | f :: frames =>
    .ok { st with
      items := .group f.kind st.body :: f.items
      branches := f.branches
      extended := f.extended
      frames := frames }

/-- What flags say about blanks, where they say anything. -/
def extendedAfter (before : Bool) (changes : List (Flag × Bool)) : Bool :=
  (changes.lookup .extended).getD before

/-- Takes the meaning of an opening parenthesis into account. -/
def applyOpening (st : State) : Opening → Except Error State
  | .capture =>
    .ok ({ st with groups := st.groups + 1 }.openGroup (.capture (st.groups + 1) none) st.extended)
  | .named name =>
    if st.names.contains name then .error .repeatedGroupName
    else
      .ok ({ st with groups := st.groups + 1, names := name :: st.names }.openGroup
        (.capture (st.groups + 1) (some name)) st.extended)
  | .plain changes => .ok (st.openGroup (.plain changes) (extendedAfter st.extended changes))
  | .directive changes =>
    .ok { st.push (.directive changes) with extended := extendedAfter st.extended changes }

/-- Repeats the last expression of the row. There is none to repeat at the start of a row or after
a directive. -/
def repeatLast (st : State) (min : Nat) (max : Option Nat) (greedy : Bool) : Except Error State :=
  match st.items with
  | [] | .empty :: _ | .directive _ :: _ => .error .missingOperand
  | e :: items => .ok { st with items := .repeated e min max greedy :: items }

end State

/-- Reads the question mark that makes a repetition prefer fewer copies; the result is whether it
prefers more. -/
def readGreed : List Char → Bool × List Char
  | '?' :: cs => (false, cs)
  | cs => (true, cs)

/-- Reads the upper count of a repetition after the lower one: the count after a comma, none where
the comma ends the counts, and the lower count where no comma stands. -/
def readUpperCount (extended : Bool) (lower : Option Nat) :
    List Char → Except Error (Option Nat × List Char)
  | ',' :: cs =>
    match skip extended cs with
    | '}' :: cs => .ok (none, '}' :: cs)
    | cs =>
      match readCount extended cs with
      | .ok (none, _) => .error .malformedCount
      | read => read
  | cs => .ok (lower, cs)

/-- Reads the counts of a repetition after its opening brace, with the question mark after it. -/
def readCounts (extended : Bool) (cs : List Char) :
    Except Error ((Nat × Option Nat × Bool) × List Char) := do
  let (lower, cs) ← readCount extended (skip extended cs)
  let (upper, cs) ← readUpperCount extended lower cs
  match lower, cs with
  | some lower, '}' :: cs =>
    let (greedy, cs) := readGreed (skip extended cs)
    if upper.all (lower ≤ ·) then return ((lower, upper, greedy), cs) else .error .emptyCount
  | _, _ => .error .malformedCount

/-- The expression of a construct that stands alone. -/
def Atom.toExpr : Atom → Expr
  | .literal c byteEscape => .literal c byteEscape
  | .dot => .dot
  | .assertion a => .assertion a
  | .short k negated => .short k negated
  | .property q negated => .property q negated

/-- One part of a regular expression. -/
inductive Token where
  | opening (o : Opening)
  | closing
  | bar
  | atom (a : Atom)
  | bracketed (c : ClassExpr)
  | repetition (min : Nat) (max : Option Nat) (greedy : Bool)

/-- Reads one part of a regular expression. -/
def readToken (extended : Bool) : List Char → Except Error (Token × List Char)
  | [] => .error .unexpectedEnd
  | '(' :: cs => do
    let (opening, rest) ← readOpening extended cs
    return (.opening opening, rest)
  | ')' :: cs => .ok (.closing, cs)
  | '|' :: cs => .ok (.bar, cs)
  | '[' :: cs => do
    let (c, rest) ← readClass extended cs
    return (.bracketed c, rest)
  | '?' :: cs => .ok (.repetition 0 (some 1) (readGreed cs).1, (readGreed cs).2)
  | '*' :: cs => .ok (.repetition 0 none (readGreed cs).1, (readGreed cs).2)
  | '+' :: cs => .ok (.repetition 1 none (readGreed cs).1, (readGreed cs).2)
  | '{' :: cs => do
    let ((min, max, greedy), rest) ← readCounts extended cs
    return (.repetition min max greedy, rest)
  | '\\' :: cs => do
    let (atom, rest) ← readEscape extended cs
    return (.atom atom, rest)
  | '.' :: cs => .ok (.atom .dot, cs)
  | '^' :: cs => .ok (.atom (.assertion .caret), cs)
  | '$' :: cs => .ok (.atom (.assertion .dollar), cs)
  | c :: cs => .ok (.atom (.literal c false), cs)

/-- The state after one more part. -/
def State.take (st : State) : Token → Except Error State
  | .opening opening => st.applyOpening opening
  | .closing => st.closeGroup
  | .bar => .ok st.nextBranch
  | .atom a => .ok (st.push a.toExpr)
  | .bracketed c => .ok (st.push (.bracketed c))
  | .repetition min max greedy => st.repeatLast min max greedy

/-- Reads one part and takes it into account. -/
def step (st : State) (cs : List Char) : Except Error (State × List Char) := do
  let (token, rest) ← readToken st.extended cs
  return (← st.take token, rest)

/-- Reads parts until the text ends, at most the given number of them. -/
def run : Nat → State → List Char → Except Error State
  | n, st, cs =>
    match skip st.extended cs with
    | [] => .ok st
    | c :: cs =>
      match n with
      | 0 => .error .unexpectedEnd
      | n + 1 => do
        let (st, rest) ← step st (c :: cs)
        run n st rest

end Reader

/-- Reads a regular expression. -/
def Expr.read (cs : List Char) : Except Error Expr := do
  let st ← Reader.run cs.length {} cs
  if st.frames.isEmpty then
    if st.body.nesting ≤ Expr.maxNesting then return st.body else .error .nestedTooDeeply
  else .error .unclosedGroup

end PatternGrammar.Regex
