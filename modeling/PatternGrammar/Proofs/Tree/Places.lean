import PatternGrammar.Proofs.Tree.Traversal

/-!
# Places of nodes

The place of a node is the way that leads to it from the root: the numbers of the children to go to,
one after another (`Tree.at?`). In pre-order a way comes before those that go on from it, and the
ways to a child come before those to its later siblings (`Tree.ways`).

Main result: `Tree.map_at?_ways` — the ways in pre-order lead to the nodes in pre-order.
-/

namespace PatternGrammar.Tree

/-- The node that a way leads to. -/
def at? : Tree → List ℕ → Option Tree
  | t, [] => some t
  | t, i :: way => t.children[i]?.bind fun c => c.at? way

/-- A way that goes on from the end of another one. -/
theorem at?_append (t : Tree) (way below : List ℕ) :
    t.at? (way ++ below) = (t.at? way).bind fun n => n.at? below := by
  induction way generalizing t with
  | nil => rfl
  | cons i way ih =>
    rw [List.cons_append, at?, at?, Option.bind_assoc]
    exact Option.bind_congr fun c _ => ih c

/-- For each node on a way below the root, whether siblings come after it. -/
def laterSiblings : Tree → List ℕ → List Bool
  | _, [] => []
  | t, i :: way =>
    decide (i + 1 < t.children.length) :: t.children[i]?.elim [] fun c => c.laterSiblings way

mutual

/-- The ways to all nodes of a tree, in pre-order. -/
def ways : Tree → List (List ℕ)
  | node _ _ _ cs => [] :: waysFrom 0 cs

/-- The ways to the nodes of some children, the first of which has the given number. -/
def waysFrom (first : ℕ) : List Tree → List (List ℕ)
  | [] => []
  | t :: ts => (ways t).map (first :: ·) ++ waysFrom (first + 1) ts

end

theorem ways_eq (t : Tree) : t.ways = [] :: waysFrom 0 t.children := by
  cases t
  rw [ways, children]

section

variable {t c : Tree} {front rest : List Tree}

theorem getElem?_children (h : t.children = front ++ c :: rest) :
    t.children[front.length]? = some c := by
  rw [h, List.getElem?_append_right (Nat.le_refl _), Nat.sub_self, List.getElem?_cons_zero]

/-- A way through a child is one from the child. -/
theorem at?_cons (h : t.children = front ++ c :: rest) (way : List ℕ) :
    t.at? (front.length :: way) = c.at? way := by
  rw [at?, getElem?_children h, Option.bind_some]

/-- The siblings that come after a child are those behind it. -/
theorem laterSiblings_cons (h : t.children = front ++ c :: rest) (way : List ℕ) :
    t.laterSiblings (front.length :: way) = (!rest.isEmpty) :: c.laterSiblings way := by
  rw [laterSiblings, getElem?_children h, Option.elim_some]
  congr 1
  cases rest <;> simp [h]

end

/-- The ways through the children behind the first ones lead to their nodes. -/
theorem map_at?_waysFrom {t : Tree}
    (ih : ∀ c ∈ t.children, c.ways.map c.at? = c.nodes.map some) {front rest : List Tree}
    (h : t.children = front ++ rest) :
    (waysFrom front.length rest).map t.at? = (rest.flatMap nodes).map some := by
  induction rest generalizing front with
  | nil => rfl
  | cons c rest ihrest =>
    have hc : c ∈ t.children := by
      rw [h]
      exact List.mem_append_right _ List.mem_cons_self
    have hrest := @ihrest (front ++ [c]) (by rw [h, List.append_assoc]; rfl)
    rw [List.length_append, List.length_singleton] at hrest
    have hfirst : ((ways c).map (front.length :: ·)).map t.at? = c.nodes.map some := by
      rw [← ih c hc, List.map_map]
      exact List.map_congr_left fun way _ => at?_cons h way
    rw [waysFrom, List.map_append, hfirst, hrest, List.flatMap_cons, List.map_append]

/-- The ways to the nodes in pre-order lead to the nodes in pre-order. -/
theorem map_at?_ways (t : Tree) : t.ways.map t.at? = t.nodes.map some := by
  induction hsize : t.size using Nat.strongRecOn generalizing t with
  | ind size ih =>
    have hchildren : ∀ c ∈ t.children, c.ways.map c.at? = c.nodes.map some := by
      intro c hc
      obtain ⟨front, rest, hsplit⟩ := List.append_of_mem hc
      refine ih c.size ?_ c rfl
      rw [← hsize, ← sizes_children t, hsplit, sizes_append, sizes]
      omega
    have hbelow := @map_at?_waysFrom t hchildren [] t.children rfl
    rw [List.length_nil] at hbelow
    rw [ways_eq, nodes_eq, List.map_cons, List.map_cons, at?, hbelow]

theorem length_ways (t : Tree) : t.ways.length = t.nodeCount := by
  rw [nodeCount, ← List.length_map (f := t.at?), map_at?_ways, List.length_map]

end PatternGrammar.Tree
