import PatternGrammar.Regex.Pattern
import PatternGrammar.Unicode.ByteRow
import Std.Data.HashMap

/-!
# The size of regular expressions

A counted repetition can stand for far more than its text shows. The size of a pattern is that of
two machines for it that read a text byte by byte, one forwards and one backwards; a pattern for
which one of them takes more than `maxSize` bytes is refused. The machines are not built, only
measured: `Machine` counts their states in the order in which these are added.

A state takes 32 bytes, a way out of a state with several of them 4, and a range of bytes in a state
that looks at several of them 8. The states for a set of characters are shared where two would be
equal. A state is found again in a table with a fixed number of places, by a hash of what it does;
there it stands until another state takes its place.

Main definitions: `Pattern.machine?`, `Pattern.fits`.
-/

namespace PatternGrammar.Regex

/-- The largest size that is accepted: ten mebibytes. -/
def maxSize : Nat := 10485760

/-- The part of a machine that has been added: the number of its states, and the bytes that they
take beside their own. -/
structure Machine where
  states : Nat
  extra : Nat
deriving Repr, Inhabited

namespace Machine

/-- The size in bytes. -/
def size (m : Machine) : Nat := 32 * m.states + m.extra

/-- Adds states with the given number of ways out of them, and ranges that they look at. -/
def add (states ways ranges : Nat) (m : Machine) : Machine :=
  ⟨m.states + states, m.extra + 4 * ways + 8 * ranges⟩

/-- The machine, unless it is too large. -/
def checked (m : Machine) : Option Machine :=
  if m.size ≤ maxSize then some m else none

end Machine

/-- A step by which machines grow, unless they become too large. -/
abbrev Growth := Machine → Option Machine

/-- Adds states, ways and ranges. -/
def grow (states ways ranges : Nat) : Growth := fun m => (m.add states ways ranges).checked

/-- Does the same thing a number of times. -/
def growTimes (step : Growth) : Nat → Growth
  | 0, m => some m
  | n + 1, m => (step m).bind (growTimes step n)

/-! ## Sets of characters -/

/-- The hash of a row of numbers. -/
def hashRow (ns : List Nat) : UInt64 :=
  ns.foldl (fun h n => (h ^^^ n.toUInt64) * 1099511628211) 14695981039346656037

/-- The states of a set that can be found again: by the place in the table, what the state there
does and its number. What a state does is a row of numbers. -/
abbrev StateTable := Std.HashMap UInt64 (List Nat × Nat)

/-- The number of the state that does the given thing, and the table and the number of states after
it is there. -/
def findOrAdd (places : UInt64) (key : List Nat) (table : StateTable) (states : Nat) :
    Nat × StateTable × Nat :=
  let place := hashRow key % places
  match table[place]? with
  | some (k, id) =>
    if k = key then (id, table, states)
    else (states, table.insert place (key, states), states + 1)
  | none => (states, table.insert place (key, states), states + 1)

/-- A row of bytes for each character range, as `Unicode.byteRows` lists them. -/
abbrev ByteRow := List (Nat × Nat)

/-- A machine for a set that is being added forwards. -/
structure Sharing where
  table : StateTable
  machine : Machine

/-- The number of places in the table of the machine that reads forwards. -/
def forwardPlaces : UInt64 := 10000

/-- The number of places in the table of the machine that reads backwards. -/
def backwardPlaces : UInt64 := 1000

/-- Adds the state that looks at the given ranges, each with the state that follows. -/
def addBranching (ways : List (Nat × Nat × Nat)) (s : Sharing) : Nat × Sharing :=
  let key := ways.flatMap fun (lo, hi, target) => [lo, hi, target]
  let (id, table, states) := findOrAdd forwardPlaces key s.table s.machine.states
  if states = s.machine.states then (id, s)
  else (id, ⟨table, s.machine.add 1 0 ways.length⟩)

/-- The rows that begin with the same range as the first one, without that range, and the rows
after them. -/
def sameStart (r : Nat × Nat) : List ByteRow → List ByteRow × List ByteRow
  | [] => ([], [])
  | row :: rows =>
    if row.head? = some r then
      let (same, rest) := sameStart r rows
      (row.tail :: same, rest)
    else ([], row :: rows)

/-- Adds the states that read rows of at most `depth` ranges and go on to the state `last`, those
behind a range before the one that looks at it. -/
def addRows (last : Nat) : Nat → Nat → List (Nat × Nat × Nat) → List ByteRow → Sharing →
    Nat × Sharing
  | 0, _, ways, _, s => addBranching ways.reverse s
  | _, 0, ways, _, s => addBranching ways.reverse s
  | _, _, ways, [], s => addBranching ways.reverse s
  | depth + 1, count + 1, ways, row :: rows, s =>
    match row with
    | [] => addRows last (depth + 1) count ways rows s
    | [(lo, hi)] => addRows last (depth + 1) count ((lo, hi, last) :: ways) rows s
    | r :: tail =>
      let (same, rest) := sameStart r rows
      let (target, s) := addRows last depth (same.length + 1) [] (tail :: same) s
      addRows last (depth + 1) count ((r.1, r.2, target) :: ways) rest s

/-- Adds the states for a set to the machine that reads forwards. -/
def addForwards (rows : List ByteRow) (m : Machine) : Machine :=
  (addRows m.states 4 rows.length [] rows ⟨∅, m.add 1 0 0⟩).2.machine

/-- Adds the states that read a row from its end, so that the last of them looks at the first range
and goes on to the state `last`. -/
def addRowBackwards : Nat → ByteRow → StateTable × Machine → StateTable × Machine
  | _, [], s => s
  | last, (lo, hi) :: row, (table, m) =>
    let (id, table, states) := findOrAdd backwardPlaces [last, lo, hi] table m.states
    addRowBackwards id row (table, { m with states })

/-- Adds the states for a set to the machine that reads backwards. -/
def addBackwards (rows : List ByteRow) (m : Machine) : Machine :=
  (rows.foldl (fun s row => addRowBackwards (m.states + 1) row s) (∅, m.add 2 rows.length 0)).2

/-! ## Choices of literals -/

/-- The bytes that write a row of characters. -/
def bytesOfChars (cs : List Char) : List Nat :=
  cs.flatMap fun c => Unicode.bytesOf c.toNat

/-- The rows that begin with the given byte, without it. -/
def rowsAfter (b : Nat) (rows : List (List Nat)) : List (List Nat) :=
  rows.filterMap fun
    | c :: row => if c = b then some row else none
    | [] => none

/-- The parts of a list of rows between the empty ones. -/
def betweenEmpty : List (List Nat) → List (List (List Nat))
  | [] => [[]]
  | [] :: rows => [] :: betweenEmpty rows
  | row :: rows =>
    match betweenEmpty rows with
    | [] => [[row]]
    | part :: parts => (row :: part) :: parts

/-- Cuts a list of rows at the empty ones. Empty rows that come first count once. -/
def cutAtEmpty (rows : List (List Nat)) : List (List (List Nat)) :=
  match rows with
  | [] :: rest => [] :: betweenEmpty (rest.dropWhile List.isEmpty)
  | rows => betweenEmpty rows

/-- Adds the states that tell rows of bytes apart, byte by byte, to a machine. -/
def addWords : Nat → List (List Nat) → Machine → Machine
  | 0, _, m => m
  | depth + 1, rows, m =>
    let parts := cutAtEmpty rows
    let filled := parts.filter fun part => !part.isEmpty
    let m := m.add 1 (filled.length + parts.length - 1) 0
    filled.foldl
      (fun m part =>
        let bytes := (part.filterMap List.head?).eraseDups
        let m := m.add 1 0 (if bytes.length = 1 then 0 else bytes.length)
        bytes.foldl
          (fun m b =>
            let tails := rowsAfter b part
            if tails.all List.isEmpty then m else addWords depth tails m)
          m)
      m

/-! ## Patterns -/

namespace Pattern

/-- The length in bytes of the shortest text that the pattern can match, where it can match one
whatever branches are taken. -/
def minLength : Pattern → Option Nat
  | empty | look _ => some 0
  | literal cs => some (bytesOfChars cs).length
  | chars set _ => set.ranges.head?.map fun r => (Unicode.bytesOf r.1).length
  | seq first rest => do return (← minLength first) + (← minLength rest)
  | choice first rest => do return min (← minLength first) (← minLength rest)
  | repeated body min _ _ => body.minLength.map (· * min)
  | capture _ body => body.minLength

/-- Whether each match makes the given test first, or last if `atStop`. -/
def makesLook (l : Look) (atStop : Bool) : Pattern → Bool
  | look k => k == l
  | seq first rest =>
    if atStop then makesLook l true rest || (rest.isZeroWidth && makesLook l true first)
    else makesLook l false first || (first.isZeroWidth && makesLook l false rest)
  | choice first rest => makesLook l atStop first && makesLook l atStop rest
  | repeated body min _ _ => 0 < min && makesLook l atStop body
  | capture _ body => makesLook l atStop body
  | _ => false

/-- The literals of a choice that has no other branches. -/
def literals? (p : Pattern) : Option (List (List Char)) :=
  p.alternatives.mapM fun
    | literal cs => some cs
    | _ => none

/-- Adds the states of a choice of literals. -/
def growWords (backwards : Bool) (words : List (List Char)) : Growth := fun m =>
  let rows := words.map bytesOfChars
  let rows := if backwards then rows.map List.reverse else rows
  (addWords ((rows.map List.length).foldl max 0 + 1) rows (m.add 1 0 0)).checked

/-- Adds the states of a set. -/
def growSet (backwards : Bool) (set : CharSet) : Growth :=
  if set.isAscii then grow 2 0 set.ranges.length
  else
    let rows := Unicode.byteRows set
    if backwards then fun m => (addBackwards rows m).checked
    else fun m => (addForwards rows m).checked

/-- Adds the states of the branches of a pattern, each with a step of its own. The state that leads
to the branches of a choice, and the one behind them, are added after the first two of them. -/
def growBranches (backwards : Bool) (p : Pattern) (steps : List Growth) : Growth :=
  match steps with
  | [step] => step
  | first :: second :: steps =>
    match p.literals? with
    | some words => growWords backwards words
    | none => fun m => do
      let m ← second (← first m)
      let m ← grow 2 (steps.length + 2) 0 m
      steps.foldlM (fun m step => step m) m
  | [] => some

/-- Adds the states of a pattern that is repeated. -/
def growRepeated (step : Growth) (consumes : Bool) (min : Nat) (max : Option Nat) : Growth :=
  match min, max with
  | 0, none =>
    if consumes then fun m => (grow 1 2 0 m).bind step else fun m => (step m).bind (grow 3 4 0)
  | min + 1, none => fun m => (growTimes step (min + 1) m).bind (grow 1 2 0)
  | 0, some 1 => fun m => do grow 1 0 0 (← step (← grow 1 2 0 m))
  | min, some max => fun m => do
    let m ← if min = 0 then grow 1 0 0 m else growTimes step min m
    if min = max then return m
    growTimes (fun m => (grow 1 2 0 m).bind step) (max - min) (← grow 1 0 0 m)

/-- The steps that add the branches of a pattern to the machine that reads forwards or backwards. A
pattern that is no choice has one. -/
def steps (backwards : Bool) : Pattern → List Growth
  | empty => [grow 1 0 0]
  | look _ => [grow 1 0 0]
  | literal cs => [grow (bytesOfChars cs).length 0 0]
  | chars set _ => [growSet backwards set]
  | seq first rest =>
    let front := growBranches backwards first (first.steps backwards)
    let back := growBranches backwards rest (rest.steps backwards)
    if backwards then [fun m => (back m).bind front] else [fun m => (front m).bind back]
  | choice first rest => first.steps backwards ++ rest.steps backwards
  | repeated body min max _ =>
    let step := growBranches backwards body (body.steps backwards)
    [growRepeated step (body.minLength.any (0 < ·)) min max]
  | capture _ body =>
    let step := growBranches backwards body (body.steps backwards)
    if backwards then [step]
    else [fun m => (grow 1 0 0 m).bind fun m => (step m).bind (grow 1 0 0)]

/-- The machine that finds the pattern in a text that it reads forwards or backwards, unless it is
too large. It begins with a loop over any bytes if a match can begin at more than one place. -/
def machine? (backwards : Bool) (p : Pattern) : Option Machine := do
  let atEdge := p.makesLook (if backwards then .stop else .start) backwards
  let m ← if atEdge then grow 1 0 0 ⟨0, 0⟩ else grow 3 2 1 ⟨0, 0⟩
  let whole := if backwards then p else capture 0 p
  let m ← growBranches backwards whole (whole.steps backwards) m
  grow 1 0 0 m

/-- Whether the pattern is accepted: both of its machines are small enough. -/
def fits (p : Pattern) : Bool :=
  (p.machine? false).isSome && (p.machine? true).isSome

end Pattern

end PatternGrammar.Regex
