import PatternGrammar.Regex.Pattern

/-!
# Programs

A pattern is compiled to a row of instructions for a machine that walks over a text. A machine
state is an instruction and a place; a `split` goes on in two ways of which the first is preferred.

A repetition `x*` is compiled as `(x+)?`: when `x` can match the empty text, the way out of the loop
is then taken with what the first empty copy of `x` recorded. A bounded repetition nests its
optional copies, so that the way out after any of them is the same instruction.
-/

namespace PatternGrammar.Regex

/-- An instruction. Targets are indices of instructions; all others go on to the next one. -/
inductive Instr where
  | chars (set : CharSet)
  | look (l : Look)
  | save (slot : Nat)
  | split (preferred other : Nat)
  | jump (target : Nat)
  | accept
deriving DecidableEq, Repr, Inhabited

/-- A row of instructions. -/
abbrev Program := Array Instr

namespace Pattern

/-- A split that prefers its first target if `greedy`. -/
def branch (greedy : Bool) (inside out : Nat) : Instr :=
  if greedy then .split inside out else .split out inside

/-- The instructions of `n` copies, one after another, from the address `start` on. -/
def copies (code : Nat → List Instr) : Nat → Nat → List Instr
  | 0, _ => []
  | n + 1, start =>
    let first := code start
    first ++ copies code n (start + first.length)

/-- The instructions of `n` optional copies, from the address `start` on. The way out of each of
them leads behind the last one. -/
def optionalCopies (code : Nat → List Instr) (greedy : Bool) : Nat → Nat → List Instr
  | 0, _ => []
  | n + 1, start =>
    let copy := code (start + 1)
    branch greedy (start + 1) (start + (n + 1) * (copy.length + 1)) :: copy
      ++ optionalCopies code greedy n (start + 1 + copy.length)

/-- The instructions of a loop that runs its body at least once, from `start` on. -/
def loop (code : Nat → List Instr) (greedy : Bool) (start : Nat) : List Instr :=
  let body := code start
  body ++ [branch greedy start (start + body.length + 1)]

/-- The instructions of a pattern that begins at the address `start` and goes on after its last
instruction. -/
def code : Pattern → Nat → List Instr
  | empty, _ => []
  | literal cs, _ => cs.map fun c => .chars (CharSet.singleton c)
  | chars set _, _ => [.chars set]
  | look l, _ => [.look l]
  | seq first rest, start =>
    let front := first.code start
    front ++ rest.code (start + front.length)
  | choice first rest, start =>
    let front := first.code (start + 1)
    let back := rest.code (start + front.length + 2)
    .split (start + 1) (start + front.length + 2) :: front
      ++ .jump (start + front.length + 2 + back.length) :: back
  | repeated body 0 none greedy, start =>
    let around := loop body.code greedy (start + 1)
    branch greedy (start + 1) (start + 1 + around.length) :: around
  | repeated body (n + 1) none greedy, start =>
    let front := copies body.code n start
    front ++ loop body.code greedy (start + front.length)
  | repeated body min (some max) greedy, start =>
    let front := copies body.code min start
    front ++ optionalCopies body.code greedy (max - min) (start + front.length)
  | capture index body, start =>
    let inside := body.code (start + 1)
    .save (2 * index) :: inside ++ [.save (2 * index + 1)]

/-- The program that matches a pattern and records the span of the match as group 0. -/
def program (p : Pattern) : Program :=
  ((capture 0 p).code 0 ++ [Instr.accept]).toArray

end Pattern

end PatternGrammar.Regex
