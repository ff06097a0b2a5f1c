import PatternGrammar.Regex.Place
import PatternGrammar.Regex.Program

/-!
# Searching a text

A search runs the machine of a program depth first over the states of a text, in the order of
preference, and never visits a state twice: what a second visit could reach, the first one has
reached already. The threads that have not run yet wait on a stack; the first one on it is the one
preferred. Each step removes a thread, and only a first visit adds up to two, so the number of
states bounds the number of steps.
-/

namespace PatternGrammar.Regex

/-- A way through the program: the next instruction, the place in the text, and the places recorded
so far, the last one first. -/
structure Thread where
  pc : Nat
  place : Nat
  saved : List (Nat × Nat)
deriving DecidableEq, Repr, Inhabited

namespace Thread

/-- The thread after an instruction that goes on to the next one. -/
def next (t : Thread) : Thread := { t with pc := t.pc + 1 }

/-- The place that was recorded last in a slot. -/
def slot (t : Thread) (i : Nat) : Option Nat := t.saved.lookup i

/-- The places between which a group matched last. -/
def group (t : Thread) (i : Nat) : Option (Nat × Nat) := do
  return (← t.slot (2 * i), ← t.slot (2 * i + 1))

/-- The threads that an instruction leads to, the preferred one first. -/
def successors (text : Array Char) (t : Thread) : Instr → List Thread
  | .chars set =>
    match text[t.place]? with
    | some c => if set.contains c then [{ t.next with place := t.place + 1 }] else []
    | none => []
  | .look l => if l.holds text t.place then [t.next] else []
  | .save slot => [{ t.next with saved := (slot, t.place) :: t.saved }]
  | .split preferred other => [{ t with pc := preferred }, { t with pc := other }]
  | .jump target => [{ t with pc := target }]
  | .accept => []

end Thread

/-- Runs the threads of a stack for at most the given number of steps. The result is the first one
that accepts. `seen` marks the states that were visited, by instruction and then by place. -/
def runThreads (program : Program) (text : Array Char) :
    Nat → List Thread → Array Bool → Option Thread
  | 0, _, _ => none
  | _ + 1, [], _ => none
  | steps + 1, t :: rest, seen =>
    let state := t.pc * (text.size + 1) + t.place
    if seen.getD state true then runThreads program text steps rest seen
    else
      match program[t.pc]? with
      | none => runThreads program text steps rest (seen.setIfInBounds state true)
      | some .accept => some t
      | some instr =>
        runThreads program text steps (t.successors text instr ++ rest)
          (seen.setIfInBounds state true)

/-- The match that starts first at or after a place, and of those the preferred one. -/
def search (program : Program) (text : Array Char) (start : Nat) : Option Thread :=
  let states := program.size * (text.size + 1)
  let starts := (List.range (text.size + 1 - start)).map fun i => ⟨0, start + i, []⟩
  runThreads program text (2 * states + starts.length + 1) starts (Array.replicate states false)

/-- All matches from a place on, from left to right. A search goes on where the match before it
ended. An empty match there is passed over, and the search goes on one character later; `last` is
the end of the match before, if there is one. -/
def matchesFrom (program : Program) (text : Array Char) :
    Nat → Option Nat → Nat → List (Nat × Nat)
  | 0, _, _ => []
  | n + 1, last, start =>
    let found :=
      match (search program text start).bind (·.group 0) with
      | some (a, b) =>
        if a == b && last == some b then (search program text (start + 1)).bind (·.group 0)
        else some (a, b)
      | none => none
    match found with
    | some (a, b) => (a, b) :: matchesFrom program text n (some b) b
    | none => []

/-- All matches in a text, from left to right. -/
def allMatches (program : Program) (text : Array Char) : List (Nat × Nat) :=
  matchesFrom program text (2 * text.size + 3) none 0

end PatternGrammar.Regex
