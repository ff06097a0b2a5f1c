import Mathlib
import PatternGrammar.Proofs.Tree.Height
import PatternGrammar.Proofs.Tree.Places

/-!
# Walks and recursion

Walks keep the nodes that wait on a stack. The walk that lists a tree puts the children of a node on
the stack so that the first one is on top, the walk that measures it so that the last one is. What a
walk gives for a tree is nevertheless what a recursion gives, which treats a node and then its
children: for any stack, it goes through the trees on it one after another.

In pre-order each node comes exactly once. Since nodes can be equal, this is said of their places:
the ways to the nodes are in lexicographic order, and they are all ways that lead to a node.

Main result: `Tree.walks_eq_recursion`.
-/

namespace PatternGrammar.Tree

/-! ## Each place once -/

theorem mem_waysFrom_iff {first : ℕ} {ts : List Tree} {way : List ℕ} :
    way ∈ waysFrom first ts ↔
      ∃ i c below, ts[i]? = some c ∧ below ∈ c.ways ∧ way = (first + i) :: below := by
  induction ts generalizing first with
  | nil => simp [waysFrom]
  | cons t ts ih =>
    rw [waysFrom, List.mem_append, List.mem_map, ih]
    constructor
    · rintro (⟨below, hbelow, rfl⟩ | ⟨i, c, below, hc, hbelow, rfl⟩)
      · exact ⟨0, t, below, rfl, hbelow, rfl⟩
      · exact ⟨i + 1, c, below, hc, hbelow, by rw [Nat.add_right_comm, Nat.add_assoc]⟩
    · rintro ⟨i, c, below, hc, hbelow, rfl⟩
      cases i with
      | zero =>
        obtain rfl : t = c := by simpa using hc
        exact .inl ⟨below, hbelow, rfl⟩
      | succ i =>
        exact .inr ⟨i, c, below, hc, hbelow, by rw [Nat.add_right_comm, Nat.add_assoc]⟩

/-- The ways to the nodes are all ways that lead to a node. -/
theorem mem_ways_iff {t : Tree} {way : List ℕ} : way ∈ t.ways ↔ (t.at? way).isSome := by
  induction way generalizing t with
  | nil => simp [ways_eq, at?]
  | cons i below ih =>
    rw [ways_eq, List.mem_cons, mem_waysFrom_iff, at?, Option.isSome_bind]
    constructor
    · rintro (hnil | ⟨i, c, below, hc, hbelow, hway⟩)
      · cases hnil
      · rw [Nat.zero_add] at hway
        obtain ⟨rfl, rfl⟩ := List.cons.inj hway
        rw [hc, Option.any_some]
        exact ih.1 hbelow
    · intro h
      obtain ⟨c, hc, hbelow⟩ := (Option.any_eq_true _ _).1 h
      exact .inr ⟨i, c, below, hc, ih.2 hbelow, by rw [Nat.zero_add]⟩

/-- The ways through some children are in lexicographic order, if those in each child are. -/
theorem pairwise_waysFrom {first : ℕ} {ts : List Tree}
    (h : ∀ t ∈ ts, t.ways.Pairwise (· < ·)) : (waysFrom first ts).Pairwise (· < ·) := by
  induction ts generalizing first with
  | nil => exact .nil
  | cons t ts ih =>
    obtain ⟨ht, hts⟩ := List.forall_mem_cons.1 h
    rw [waysFrom, List.pairwise_append, List.pairwise_map]
    refine ⟨ht.imp fun hlt => List.cons_lt_cons_iff.2 (.inr ⟨rfl, hlt⟩), ih hts, ?_⟩
    intro way hway way' hway'
    obtain ⟨below, -, rfl⟩ := List.mem_map.1 hway
    obtain ⟨i, c, below', -, -, rfl⟩ := mem_waysFrom_iff.1 hway'
    exact List.cons_lt_cons_iff.2 (.inl (by omega))

/-- The ways to the nodes are in lexicographic order. In particular no way comes twice. -/
theorem pairwise_ways (t : Tree) : t.ways.Pairwise (· < ·) := by
  induction hsize : t.size using Nat.strongRecOn generalizing t with
  | ind size ih =>
    rw [ways_eq, List.pairwise_cons]
    constructor
    · intro way hway
      obtain ⟨i, c, below, -, -, rfl⟩ := mem_waysFrom_iff.1 hway
      exact List.nil_lt_cons _ _
    · refine pairwise_waysFrom fun c hc => ?_
      obtain ⟨front, rest, hsplit⟩ := List.append_of_mem hc
      refine ih c.size ?_ c rfl
      rw [← hsize, ← sizes_children t, hsplit, sizes_append, sizes]
      omega

/-! ## What walks give for a node and its children -/

theorem nodeCount_eq (t : Tree) : t.nodeCount = 1 + (t.children.map nodeCount).sum := by
  rw [nodeCount, nodes_eq, List.length_cons, List.length_flatMap, Nat.add_comm]
  rfl

theorem levelsOf_eq_max (ts : List Tree) : levelsOf ts = (ts.map height).max?.getD 0 := by
  cases hmax : (ts.map height).max? with
  | none =>
    rw [List.map_eq_nil_iff.1 (List.max?_eq_none_iff.1 hmax)]
    rfl
  | some highest =>
    obtain ⟨hmem, hle⟩ := List.max?_eq_some_iff.1 hmax
    obtain ⟨t, ht, rfl⟩ := List.mem_map.1 hmem
    rw [Option.getD_some]
    apply Nat.le_antisymm
    · refine levelsOf_le_iff.2 fun u hu => ?_
      rw [← height_eq_levels]
      exact hle _ (List.mem_map_of_mem hu)
    · rw [height_eq_levels]
      exact levelsOf_le_iff.1 (Nat.le_refl _) t ht

/-- A tree is one node higher than its highest child, and a leaf has the height 1. -/
theorem height_eq (t : Tree) : t.height = 1 + (t.children.map height).max?.getD 0 := by
  rw [height_eq_levels, levels_eq, levelsOf_eq_max, Nat.add_comm]

theorem findAll_eq (t : Tree) (name : String) :
    t.findAll name =
      (if t.ruleName = name then [t] else []) ++ t.children.flatMap (findAll · name) := by
  rw [findAll, nodes_eq, List.filter_cons, List.filter_flatMap]
  by_cases h : t.ruleName = name
  · rw [if_pos (by simpa using h), if_pos h]
    rfl
  · rw [if_neg (by simpa using h), if_neg h]
    rfl

/-- The ways to the nodes with a name, in pre-order, lead to what is found for the name. -/
theorem map_at?_filter_ways (t : Tree) (name : String) :
    (t.ways.filter fun way => (t.at? way).any fun n => n.ruleName == name).map t.at? =
      (t.findAll name).map some := by
  have hmap : ∀ p : Option Tree → Bool,
      (t.ways.filter fun way => p (t.at? way)).map t.at? = (t.ways.map t.at?).filter p :=
    fun p => (List.filter_map ..).symm
  rw [hmap, map_at?_ways, List.filter_map]
  rfl

/-- The nodes of a stack are those of its trees, from the top. For a tree they are the tree and then
the nodes of its children; the ways to nodes, in lexicographic order, lead to them, so that each node
comes once. There is one node more than in the children together, and the tree is one node higher
than its highest child. The nodes with a name are found in the same order. -/
theorem walks_eq_recursion (t : Tree) :
    ((∀ stack, nodesOf stack = stack.flatMap nodes) ∧
      t.nodes = t :: t.children.flatMap nodes ∧
      t.ways.Pairwise (· < ·) ∧ (∀ way, way ∈ t.ways ↔ (t.at? way).isSome) ∧
      t.ways.map t.at? = t.nodes.map some) ∧
    t.nodeCount = 1 + (t.children.map nodeCount).sum ∧
    t.height = 1 + (t.children.map height).max?.getD 0 ∧
    ∀ name,
      t.findAll name =
        (if t.ruleName = name then [t] else []) ++ t.children.flatMap (findAll · name) ∧
      (t.ways.filter fun way => (t.at? way).any fun n => n.ruleName == name).map t.at? =
        (t.findAll name).map some := by
  refine ⟨⟨nodesOf_eq_flatMap, t.nodes_eq, t.pairwise_ways, fun way => mem_ways_iff,
    t.map_at?_ways⟩, t.nodeCount_eq, t.height_eq, fun name => ⟨t.findAll_eq name, ?_⟩⟩
  exact t.map_at?_filter_ways name

end PatternGrammar.Tree
