import Mathlib.Data.Nat.Notation
import PatternGrammar.Tree.Basic

/-!
# Walks through trees

Walking through a tree with a stack gives the nodes that a recursion gives: a node and then what is
below it, child by child (`Tree.nodes_eq`).
-/

namespace PatternGrammar.Tree

theorem nodesOf_cons (t : Tree) (ts : List Tree) :
    nodesOf (t :: ts) = t :: nodesOf (t.children ++ ts) := by
  rw [nodesOf]

/-- The nodes of a stack are those of its upper part followed by those of its lower part. -/
theorem nodesOf_append (ts us : List Tree) : nodesOf (ts ++ us) = nodesOf ts ++ nodesOf us := by
  induction ts using nodesOf.induct with
  | case1 => rw [List.nil_append, nodesOf, List.nil_append]
  | case2 t rest ih =>
    rw [List.cons_append, nodesOf_cons, nodesOf_cons, ← List.append_assoc, ih, List.cons_append]

theorem nodesOf_eq_flatMap (ts : List Tree) : nodesOf ts = ts.flatMap nodes := by
  induction ts with
  | nil => rw [nodesOf, List.flatMap_nil]
  | cons t ts ih =>
    rw [List.flatMap_cons, ← ih, nodes, ← nodesOf_append, List.singleton_append]

/-- The nodes of a tree are the tree itself and then the nodes of its children. -/
theorem nodes_eq (t : Tree) : t.nodes = t :: t.children.flatMap nodes := by
  rw [nodes, nodesOf_cons, List.append_nil, nodesOf_eq_flatMap]

theorem mem_nodes_iff {n t : Tree} : n ∈ t.nodes ↔ n = t ∨ ∃ c ∈ t.children, n ∈ c.nodes := by
  rw [nodes_eq, List.mem_cons, List.mem_flatMap]

end PatternGrammar.Tree
