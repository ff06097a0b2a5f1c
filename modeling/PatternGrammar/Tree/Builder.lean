import PatternGrammar.Grammar.Explanation
import PatternGrammar.Tree.Arena
import PatternGrammar.Tree.Worklist

/-!
# Building parse trees

The root of a tree covers the whole input. If a structural rule explains the input, it becomes the
only child of the root and the work goes on inside it; else the matches of the start rule become the
children of the root.

Searching a rule inside a span adds a child for each match that is not empty. The text of a child is
then explained in turn, apart from rules that reach the searched rule. If the searched rule itself
explains it, the work goes on inside the child; if another one does, a node of that rule is put
below the child and the work goes on inside that node, unless the same rule already covers the same
span further up. Going on inside a node means to search the named parts of a composition in the
spans of their groups, the alternative of a choice that was taken in its span, and the rule of a
repetition in the whole span.

Searches wait on a stack. Those that a search leads to come before those that waited already, and
are one level deeper; a search below the deepest level that is allowed ends the work with an error.

Main definitions: `Builder.build`, `Builder.run`.
-/

namespace PatternGrammar

open PatternGrammar.Text (Span slice byteSize)

/-- Why a tree cannot be built: a search would be deeper than allowed. -/
structure DepthExceeded where
  limit : Nat
  rule : String
  span : Span
deriving DecidableEq, Repr, Inhabited

/-- The message of the error. -/
def DepthExceeded.message (e : DepthExceeded) : String :=
  "Parse tree exceeds maximum depth " ++ toString e.limit ++ " while searching rule '" ++ e.rule
    ++ "' in " ++ e.span.text

/-- The pattern of the rule at the root of a tree: any text. -/
def rootPattern : String := "(?:.|[\n\t])*"

/-- The rule at the root of a tree. -/
def rootRule : Rule := ⟨"", .literal rootPattern⟩

/-- A search of a rule inside a span that waits. Its matches become children of `parent`, or of the
root where there is none. -/
structure Search where
  parent : Option Nat
  span : Span
  rule : Rule
  depth : Nat
deriving Repr, Inhabited

/-- What a tree is built from, and the deepest level of searches that is allowed. -/
structure Builder where
  grammar : CompiledGrammar
  input : String
  maxDepth : Nat

namespace Builder

/-- The depth that is allowed if nothing else is asked for. -/
def defaultMaxDepth : Nat := 512

/-- The searches that explain the groups of a rule: which rules are searched, and in which spans
relative to the explained text. -/
def targets (e : Explanation) (whole : Span) : List (String × Span) :=
  match e.rule.description with
  | .composition parts =>
    (parts.zip e.groups).filterMap fun (part, group) => do return (← part.ruleName?, ← group)
  | .choice alternatives =>
    (alternatives.zip e.groups).filterMap fun (name, group) => do return (name, ← group)
  | .repetition rule _ _ => [(rule, whole)]
  | .literal _ => []

/-- The searches inside a span that an explanation leads to. -/
def searchesOf (b : Builder) (e : Explanation) (node : Option Nat) (span : Span) (depth : Nat) :
    List Search :=
  (targets e ⟨0, span.stop - span.start⟩).filterMap fun (name, group) =>
    (b.grammar.find? name).map fun r => ⟨node, group.shift span.start, r.rule, depth + 1⟩

/-- What explaining the text of a node comes to. -/
inductive Outcome where
  /-- No rule explains it. -/
  | unexplained
  /-- The rule of the node explains it. -/
  | byItself (e : Explanation)
  /-- Another rule explains it, which already covers the span further up. -/
  | covered (e : Explanation)
  /-- Another rule explains it. -/
  | byOther (e : Explanation)

/-- Explains the text of a node that a rule produced. -/
def outcome (b : Builder) (arena : Arena) (node : Option Nat) (nodeRule : Rule) (span : Span) :
    Outcome :=
  match b.grammar.explain (slice b.input span) nodeRule.name with
  | none => .unexplained
  | some e =>
    if e.groups.isEmpty then .unexplained
    else if e.rule.name == nodeRule.name then .byItself e
    else if arena.onPath node e.rule.name span then .covered e
    else .byOther e

/-- Puts the explanation of a node into the arena and gives the searches that it leads to. `depth`
is that of the search that produced the node. -/
def explain (b : Builder) (arena : Arena) (node : Option Nat) (nodeRule : Rule) (span : Span)
    (depth : Nat) : Arena × List Search :=
  match b.outcome arena node nodeRule span with
  | .unexplained | .covered _ => (arena, [])
  | .byItself e => (arena, b.searchesOf e node span depth)
  | .byOther e =>
    (arena.push node e.rule span, b.searchesOf e (some arena.nextId) span depth)

/-- The spans in the input of the matches of a search that are not empty. -/
def found (b : Builder) (s : Search) : List Span :=
  match b.grammar.find? s.rule.name with
  | none => []
  | some r =>
    ((r.matcher.findAll (slice b.input s.span)).filter fun m => m.start != m.stop).map
      (·.shift s.span.start)

/-- Adds a node for each match of a search and explains it. -/
def addMatches (b : Builder) (s : Search) : Arena → List Span → Arena × List Search
  | arena, [] => (arena, [])
  | arena, span :: spans =>
    let node := arena.nextId
    let (arena, searches) :=
      b.explain (arena.push s.parent s.rule span) (some node) s.rule span s.depth
    let (arena, more) := addMatches b s arena spans
    (arena, searches ++ more)

/-- Runs one search. -/
def step (b : Builder) (arena : Arena) (s : Search) : Arena × List Search :=
  b.addMatches s arena (b.found s)

theorem depth_searchesOf {b : Builder} {e : Explanation} {node : Option Nat} {span : Span}
    {depth : Nat} {s : Search} (h : s ∈ b.searchesOf e node span depth) : s.depth = depth + 1 := by
  simp only [searchesOf, List.mem_filterMap, Option.map_eq_some_iff] at h
  obtain ⟨_, _, _, _, rfl⟩ := h
  rfl

theorem depth_explain {b : Builder} {arena : Arena} {node : Option Nat} {rule : Rule} {span : Span}
    {depth : Nat} {s : Search} (h : s ∈ (b.explain arena node rule span depth).2) :
    s.depth = depth + 1 := by
  unfold explain at h
  split at h
  · simp at h
  · simp at h
  · exact depth_searchesOf h
  · exact depth_searchesOf h

theorem depth_addMatches {b : Builder} {s : Search} {arena : Arena} {spans : List Span}
    {next : Search} (h : next ∈ (b.addMatches s arena spans).2) : next.depth = s.depth + 1 := by
  induction spans generalizing arena with
  | nil => simp [addMatches] at h
  | cons span spans ih =>
    simp only [addMatches, List.mem_append] at h
    rcases h with h | h
    · exact depth_explain h
    · exact ih h

/-- A search leads to searches one level deeper. -/
theorem depth_step {b : Builder} {arena : Arena} {s next : Search}
    (h : next ∈ (b.step arena s).2) : next.depth = s.depth + 1 :=
  depth_addMatches h

/-- Works off a stack of searches. -/
def run (b : Builder) (arena : Arena) (stack : List Search) : Except DepthExceeded Arena :=
  match stack with
  | [] => .ok arena
  | s :: rest =>
    if b.maxDepth < s.depth then .error ⟨b.maxDepth, s.rule.name, s.span⟩
    else run b (b.step arena s).1 ((b.step arena s).2 ++ rest)
termination_by (⟨stack.map fun s => b.maxDepth + 1 - s.depth⟩ : Budgets)
decreasing_by
  rw [List.map_append]
  refine Budgets.Below.replace fun n hn => ?_
  obtain ⟨next, hnext, rfl⟩ := List.mem_map.1 hn
  have := depth_step hnext
  show b.maxDepth + 1 - next.depth < b.maxDepth + 1 - s.depth
  omega

/-- The arena and the searches that the work begins with. -/
def initial (b : Builder) : Arena × List Search :=
  let whole : Span := ⟨0, byteSize b.input.toList⟩
  let (arena, searches) :=
    if b.input.isEmpty then ({}, []) else b.explain {} none rootRule whole 0
  if arena.rootChildren.isEmpty then
    (arena, searches ++ [⟨none, whole, b.grammar.startRule, 1⟩])
  else (arena, searches)

/-- Builds the tree of the input. -/
def build (b : Builder) : Except DepthExceeded Tree := do
  let arena ← b.run b.initial.1 b.initial.2
  return arena.toTree rootRule b.input

end Builder

end PatternGrammar
