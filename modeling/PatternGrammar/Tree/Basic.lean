import PatternGrammar.Rule.Basic
import PatternGrammar.Text.Span

/-!
# Parse trees

A node of a parse tree holds the rule that produced it, its span in the input, the text of that
span and its children. The root holds a rule without a name. Trees are walked with a stack of the
nodes that wait: `Tree.nodes` lists a tree in pre-order, `Tree.height` measures it.
-/

namespace PatternGrammar

open PatternGrammar.Text (Span)

/-- A parse tree. -/
inductive Tree where
  | node (rule : Rule) (span : Span) (text : String) (children : List Tree)
deriving Repr, Inhabited

namespace Tree

/-- The rule that produced the root of the tree. -/
def rule : Tree → Rule
  | node r _ _ _ => r

/-- The span of the tree in the input. -/
def span : Tree → Span
  | node _ s _ _ => s

/-- The text of the span. -/
def text : Tree → String
  | node _ _ t _ => t

/-- The trees below the root of the tree. -/
def children : Tree → List Tree
  | node _ _ _ cs => cs

/-- The name of the rule that produced the root of the tree. -/
def ruleName (t : Tree) : String := t.rule.name

/-- Whether the tree has a rule without a name. -/
def isRoot (t : Tree) : Bool := t.ruleName == ""

/-- Whether there is nothing below the root of the tree. -/
def isLeaf (t : Tree) : Bool := t.children.isEmpty

mutual

/-- The number of nodes, by recursion. -/
def size : Tree → Nat
  | node _ _ _ cs => sizes cs + 1

/-- The number of nodes of a row of trees, by recursion. -/
def sizes : List Tree → Nat
  | [] => 0
  | t :: ts => size t + sizes ts

end

theorem sizes_append (ts us : List Tree) : sizes (ts ++ us) = sizes ts + sizes us := by
  induction ts with
  | nil => simp [sizes]
  | cons t ts ih => simp [sizes, ih, Nat.add_assoc]

theorem sizes_children (t : Tree) : sizes t.children + 1 = t.size := by
  cases t
  simp [children, size]

/-- The nodes of a stack of trees in pre-order. -/
def nodesOf : List Tree → List Tree
  | [] => []
  | t :: rest => t :: nodesOf (t.children ++ rest)
termination_by stack => sizes stack
decreasing_by
  have := sizes_children t
  simp only [sizes_append, sizes]
  omega

/-- The nodes of a tree in pre-order, beginning with the tree itself. -/
def nodes (t : Tree) : List Tree := nodesOf [t]

/-- The nodes that the named rule produced, in pre-order. -/
def findAll (t : Tree) (name : String) : List Tree :=
  t.nodes.filter fun n => n.ruleName == name

/-- The number of nodes. -/
def nodeCount (t : Tree) : Nat := t.nodes.length

theorem sizes_map_fst (ts : List Tree) (level : Nat) :
    sizes ((ts.map fun t => (t, level)).map Prod.fst) = sizes ts := by
  simp [Function.comp_def]

theorem sizes_reverse (ts : List Tree) : sizes ts.reverse = sizes ts := by
  induction ts with
  | nil => rfl
  | cons t ts ih => simp [sizes, sizes_append, ih, Nat.add_comm]

/-- The deepest level in a stack of trees with the levels that they stand at, and `deepest`. The last
child of a tree comes to lie on top. -/
def heightOf (deepest : Nat) : List (Tree × Nat) → Nat
  | [] => deepest
  | (t, level) :: rest =>
    heightOf (max deepest level) ((t.children.map fun c => (c, level + 1)).reverse ++ rest)
termination_by stack => sizes (stack.map Prod.fst)
decreasing_by
  have := sizes_children t
  simp only [List.map_append, List.map_reverse, sizes_append, sizes_reverse, List.map_cons, sizes,
    sizes_map_fst]
  omega

/-- The number of nodes on the longest way from the root to a leaf. -/
def height (t : Tree) : Nat := heightOf 0 [(t, 1)]

end Tree

end PatternGrammar
