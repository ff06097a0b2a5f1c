import Mathlib.Data.List.Basic
import PatternGrammar.Proofs.Tree.Traversal
import PatternGrammar.Tree.Arena

/-!
# Arenas

What a node is, apart from its children, never changes (`Arena.label?`). In an arena that was built
by adding nodes below nodes that are there already, parents stand in front of their children, and
the children of a node are all nodes that have it as their parent, in the order in which they were
added (`Arena.Sound`).

Finished trees wait in a table until their parents take them. Nodes are finished from the last one
on; at each turn the trees that wait are those whose parents are not finished yet (`Arena.Waiting`).

Main results:

* `Arena.Sound.keys_some`: the way from a node up to the root is the node followed by the way from
  its parent.
* `Arena.Sound.keys_push`: adding nodes does not change the ways from the nodes that are there.
* `Arena.Sound.treeAt_eq`: the finished tree of a node holds the trees of all its children, in
  order.
* `Arena.Sound.toTree_eq`: so does the whole tree.
* `Arena.Sound.getElem?_topTrees`: no tree is left in the table.
-/

namespace PatternGrammar.Arena

open PatternGrammar.Text (Span slice byteSize)

/-! ## Labels -/

/-- A node under construction without its children. -/
structure Label where
  parent : Option ℕ
  rule : Rule
  span : Span

/-- The node with a number, without its children. -/
def label? (a : Arena) (id : ℕ) : Option Label :=
  (a.nodes[id]?).map fun n => ⟨n.parent, n.rule, n.span⟩

/-- The numbers of the nodes that have the given parent, in order. -/
def childrenOf (a : Arena) (parent : Option ℕ) : List ℕ :=
  (List.range a.nodes.size).filter fun id => (a.label? id).any (·.parent == parent)

theorem nextId_push (a : Arena) (parent : Option ℕ) (r : Rule) (span : Span) :
    (a.push parent r span).nextId = a.nextId + 1 := by
  cases parent <;> simp [push, nextId]

theorem label?_eq_none {a : Arena} {id : ℕ} (h : a.nextId ≤ id) : a.label? id = none := by
  simpa [label?, nextId] using h

theorem lt_of_label? {a : Arena} {id : ℕ} {l : Label} (h : a.label? id = some l) :
    id < a.nextId := by
  by_contra hnot
  rw [label?_eq_none (by omega)] at h
  simp at h

theorem exists_label? {a : Arena} {id : ℕ} (h : id < a.nextId) : ∃ l, a.label? id = some l := by
  simp only [nextId] at h
  simp [label?, h]

theorem label?_push (a : Arena) (parent : Option ℕ) (r : Rule) (span : Span) (id : ℕ) :
    (a.push parent r span).label? id =
      if id = a.nextId then some ⟨parent, r, span⟩ else a.label? id := by
  unfold nextId
  cases parent with
  | none =>
    simp only [push, label?, Array.getElem?_push]
    split <;> simp
  | some p =>
    simp only [push, label?, Array.getElem?_modify, Array.getElem?_push]
    split <;> split <;> simp [Function.comp_def]

theorem label?_push_of_lt (a : Arena) (parent : Option ℕ) (r : Rule) (span : Span) {id : ℕ}
    (h : id < a.nextId) : (a.push parent r span).label? id = a.label? id := by
  rw [label?_push, if_neg (Nat.ne_of_lt h)]

theorem childrenOf_push (a : Arena) (parent : Option ℕ) (r : Rule) (span : Span)
    (node : Option ℕ) :
    (a.push parent r span).childrenOf node =
      a.childrenOf node ++ if parent = node then [a.nextId] else [] := by
  have hlast : (a.push parent r span).label? a.nextId = some ⟨parent, r, span⟩ := by
    rw [label?_push, if_pos rfl]
  have hsize : (a.push parent r span).nodes.size = a.nextId + 1 := nextId_push a parent r span
  rw [childrenOf, hsize, List.range_succ, List.filter_append]
  congr 1
  · refine List.filter_congr fun id hid => ?_
    rw [label?_push_of_lt a parent r span (List.mem_range.1 hid)]
  · rw [List.filter_cons, hlast, List.filter_nil]
    simp

/-! ## Sound arenas -/

/-- Parents stand in front of their children, and each node knows its children, in order. -/
structure Sound (a : Arena) : Prop where
  parent_lt : ∀ id l, a.label? id = some l → ∀ p, l.parent = some p → p < id
  children_eq : ∀ id n, a.nodes[id]? = some n → n.children.toList = a.childrenOf (some id)
  rootChildren_eq : a.rootChildren.toList = a.childrenOf none

theorem sound_empty : Sound {} := ⟨by simp [label?], by simp, by simp [childrenOf]⟩

/-- A node is added below the root or below a node that is there already. -/
theorem Sound.push {a : Arena} (h : a.Sound) {parent : Option ℕ}
    (hparent : ∀ p, parent = some p → p < a.nextId) (r : Rule) (span : Span) :
    (a.push parent r span).Sound := by
  refine ⟨fun id l hl p hp => ?_, fun id n hn => ?_, ?_⟩
  · rw [label?_push] at hl
    split at hl
    · rename_i hid
      obtain rfl := Option.some.inj hl
      rw [hid]
      exact hparent p hp
    · exact h.parent_lt id l hl p hp
  · rw [childrenOf_push]
    have hnew : a.childrenOf (some a.nextId) = [] := by
      refine List.filter_eq_nil_iff.2 fun id _ => ?_
      cases hl : a.label? id with
      | none => simp
      | some l =>
        intro heq
        have := h.parent_lt id l hl a.nextId (by simpa using heq)
        have := lt_of_label? hl
        omega
    cases parent with
    | none =>
      rw [Arena.push, Array.getElem?_push] at hn
      split at hn
      · rename_i hid
        obtain rfl := Option.some.inj hn
        rw [hid, ← nextId, hnew]
        simp
      · rw [h.children_eq id n hn]
        simp
    | some p =>
      have hp : p < a.nodes.size := hparent p rfl
      rw [Arena.push, Array.getElem?_modify, Array.getElem?_push] at hn
      by_cases hid : id = a.nodes.size
      · subst hid
        rw [if_neg (by omega), if_pos rfl] at hn
        obtain rfl := Option.some.inj hn
        rw [← nextId, hnew, if_neg (by simp [nextId]; omega)]
        simp
      · rw [if_neg hid] at hn
        split at hn
        · rename_i heq
          subst heq
          obtain ⟨n, hn', rfl⟩ := Option.map_eq_some_iff.1 hn
          simp [h.children_eq _ n hn']
        · rename_i hne
          rw [h.children_eq id n hn, if_neg (by simpa using hne)]
          simp
  · rw [childrenOf_push]
    cases parent with
    | none => simp [Arena.push, h.rootChildren_eq]
    | some p => simp [Arena.push, h.rootChildren_eq]

/-! ## The way to the root -/

/-- The rules, by name, and the spans of the nodes from the given one up to a child of the root. -/
def keys (a : Arena) (node : Option ℕ) : List (String × Span) :=
  (a.path node).map fun n => (n.rule.name, n.span)

theorem onPath_iff {a : Arena} {node : Option ℕ} {rule : String} {span : Span} :
    a.onPath node rule span ↔ (rule, span) ∈ a.keys node := by
  simp [onPath, keys]

@[simp] theorem keys_none (a : Arena) : a.keys none = [] := by
  unfold keys path pathFrom
  split <;> simp_all

theorem map_pathFrom_succ (a : Arena) (n id : ℕ) :
    (a.pathFrom (n + 1) (some id)).map (fun n => (n.rule.name, n.span)) =
      match a.label? id with
      | some l =>
        (l.rule.name, l.span) :: (a.pathFrom n l.parent).map fun n => (n.rule.name, n.span)
      | none => [] := by
  rw [pathFrom]
  cases h : a.nodes[id]? with
  | none => simp [label?, h]
  | some node => simp [label?, h]

theorem pathFrom_none (a : Arena) (n : ℕ) : a.pathFrom n none = [] := by
  cases n <;> rfl

/-- Two arenas in which the nodes up to a node are the same have the same way up from it. A number
of steps above that of the node is always enough. -/
theorem map_pathFrom_congr {a b : Arena} (h : a.Sound) {id n m : ℕ} (hn : id < n) (hm : id < m)
    (hab : ∀ i ≤ id, b.label? i = a.label? i) :
    (b.pathFrom n (some id)).map (fun n => (n.rule.name, n.span)) =
      (a.pathFrom m (some id)).map fun n => (n.rule.name, n.span) := by
  induction id using Nat.strongRecOn generalizing n m with
  | ind id ih =>
    obtain ⟨n, rfl⟩ : ∃ k, n = k + 1 := ⟨n - 1, by omega⟩
    obtain ⟨m, rfl⟩ : ∃ k, m = k + 1 := ⟨m - 1, by omega⟩
    rw [map_pathFrom_succ, map_pathFrom_succ, hab id (Nat.le_refl id)]
    cases hl : a.label? id with
    | none => rfl
    | some l =>
      dsimp only
      congr 1
      cases hp : l.parent with
      | none => rw [pathFrom_none, pathFrom_none]
      | some p =>
        have hlt := h.parent_lt id l hl p hp
        exact ih p hlt (by omega) (by omega) fun i hi => hab i (by omega)

/-- The way up from a node is the node and the way up from its parent. -/
theorem Sound.keys_some {a : Arena} (h : a.Sound) {id : ℕ} {l : Label}
    (hl : a.label? id = some l) :
    a.keys (some id) = (l.rule.name, l.span) :: a.keys l.parent := by
  have hid : id < a.nodes.size := lt_of_label? hl
  obtain ⟨n, hsize⟩ : ∃ k, a.nodes.size = k + 1 := ⟨a.nodes.size - 1, by omega⟩
  rw [keys, path, hsize, map_pathFrom_succ, hl]
  dsimp only
  congr 1
  cases hp : l.parent with
  | none => rw [pathFrom_none, keys_none]; rfl
  | some p =>
    have hlt := h.parent_lt id l hl p hp
    exact map_pathFrom_congr h (by omega) (by omega) fun _ _ => rfl

/-- Adding a node changes no way up from a node that is there. -/
theorem Sound.keys_push {a : Arena} (h : a.Sound) (parent : Option ℕ) (r : Rule) (span : Span)
    {node : Option ℕ} (hnode : ∀ id, node = some id → id < a.nextId) :
    (a.push parent r span).keys node = a.keys node := by
  cases node with
  | none => rw [keys_none, keys_none]
  | some id =>
    have hid : id < a.nextId := hnode id rfl
    have hsize : (a.push parent r span).nodes.size = a.nextId + 1 := nextId_push a parent r span
    refine map_pathFrom_congr h (by omega) hid fun i hi => ?_
    exact label?_push_of_lt a parent r span (by omega)

/-! ## The finished tree -/

theorem exists_label_of_mem_childrenOf {a : Arena} {parent : Option ℕ} {id : ℕ}
    (h : id ∈ a.childrenOf parent) : ∃ l, a.label? id = some l ∧ l.parent = parent := by
  obtain ⟨hsize, hparent⟩ := List.mem_filter.1 h
  obtain ⟨l, hl⟩ := exists_label? (List.mem_range.1 hsize)
  rw [hl] at hparent
  exact ⟨l, hl, by simpa using hparent⟩

theorem lt_of_mem_childrenOf {a : Arena} {parent : Option ℕ} {id : ℕ}
    (h : id ∈ a.childrenOf parent) : id < a.nextId := by
  obtain ⟨l, hl, -⟩ := exists_label_of_mem_childrenOf h
  exact lt_of_label? hl

theorem parent_of_mem_childrenOf {a : Arena} {parent : Option ℕ} {id : ℕ} {l : Label}
    (hl : a.label? id = some l) (h : id ∈ a.childrenOf parent) : l.parent = parent := by
  obtain ⟨l', hl', hparent⟩ := exists_label_of_mem_childrenOf h
  rw [Option.some.inj (hl.symm.trans hl'), hparent]

theorem mem_childrenOf_of_label? {a : Arena} {id : ℕ} {l : Label} {parent : Option ℕ}
    (hl : a.label? id = some l) (hparent : l.parent = parent) : id ∈ a.childrenOf parent := by
  rw [childrenOf, List.mem_filter, List.mem_range, hl]
  exact ⟨lt_of_label? hl, by simp [hparent]⟩

theorem nodup_childrenOf (a : Arena) (parent : Option ℕ) : (a.childrenOf parent).Nodup :=
  List.nodup_range.filter _

/-- The finished tree of a node, by recursion. -/
def treeAt (a : Arena) (input : String) (id : ℕ) : Tree :=
  match a.label? id with
  | some l => .node l.rule l.span (slice input l.span) ((a.childrenOf (some id)).map fun child =>
      -- always so in a sound arena
      if id < child ∧ child < a.nextId then a.treeAt input child else default)
  | none => default
termination_by a.nextId - id
decreasing_by omega

/-- The tree of a node holds the trees of its children, in order. -/
theorem Sound.treeAt_eq {a : Arena} (h : a.Sound) (input : String) {id : ℕ} {l : Label}
    (hl : a.label? id = some l) :
    a.treeAt input id = .node l.rule l.span (slice input l.span)
      ((a.childrenOf (some id)).map (a.treeAt input)) := by
  rw [treeAt, hl]
  dsimp only
  congr 1
  refine List.map_congr_left fun child hchild => ?_
  obtain ⟨l', hl', hparent⟩ := exists_label_of_mem_childrenOf hchild
  rw [if_pos ⟨h.parent_lt child l' hl' id hparent, lt_of_label? hl'⟩]

/-! ### The table of finished trees -/

section

variable {table : Array (Option Tree)} {ids : List ℕ}

theorem takeTrees_cons (id : ℕ) :
    takeTrees table (id :: ids) =
      (table[id]?.join.toList ++ (takeTrees (table.setIfInBounds id none) ids).1,
        (takeTrees (table.setIfInBounds id none) ids).2) := rfl

theorem size_takeTrees : (takeTrees table ids).2.size = table.size := by
  induction ids generalizing table with
  | nil => rfl
  | cons id ids ih => rw [takeTrees_cons, ih, Array.size_setIfInBounds]

/-- The places from which trees were taken are empty, the others are as before. -/
theorem getElem?_takeTrees (j : ℕ) :
    (takeTrees table ids).2[j]? = if j ∈ ids then table[j]?.map fun _ => none else table[j]? := by
  induction ids generalizing table with
  | nil => simp [takeTrees]
  | cons id ids ih =>
    rw [takeTrees_cons, ih, Array.getElem?_setIfInBounds]
    by_cases hj : id = j
    · subst hj
      by_cases hlt : id < table.size <;> simp [hlt]
    · simp [hj, Ne.symm hj]

/-- Different nodes whose trees are all in the table give these trees, in order. -/
theorem takeTrees_of_waiting {f : ℕ → Tree} (hids : ids.Nodup)
    (h : ∀ id ∈ ids, table[id]? = some (some (f id))) : (takeTrees table ids).1 = ids.map f := by
  induction ids generalizing table with
  | nil => rfl
  | cons id ids ih =>
    obtain ⟨hid, hids⟩ := List.nodup_cons.1 hids
    obtain ⟨htree, hrest⟩ := List.forall_mem_cons.1 h
    have hlater : ∀ id' ∈ ids, (table.setIfInBounds id none)[id']? = some (some (f id')) := by
      intro id' hid'
      rw [Array.getElem?_setIfInBounds, if_neg (by rintro rfl; exact hid hid')]
      exact hrest id' hid'
    rw [takeTrees_cons, htree, ih hids hlater]
    rfl

end

/-- The table when the nodes from the given one on are finished: there wait the trees of those whose
parents are not finished yet, each at the number of its node. -/
structure Waiting (a : Arena) (input : String) (first : ℕ) (table : Array (Option Tree)) :
    Prop where
  size_eq : table.size = a.nextId
  waits : ∀ id l, a.label? id = some l → first ≤ id → (∀ p, l.parent = some p → p < first) →
    table[id]? = some (some (a.treeAt input id))
  empty : ∀ id l, a.label? id = some l → (id < first ∨ ∃ p, l.parent = some p ∧ first ≤ p) →
    table[id]? = some none

theorem waiting_empty (a : Arena) (input : String) :
    a.Waiting input a.nextId (Array.replicate a.nodes.size none) := by
  refine ⟨Array.size_replicate, fun id l hl hid _ => ?_, fun id l hl _ => ?_⟩
  · have := lt_of_label? hl
    omega
  · rw [Array.getElem?_replicate, if_pos (show id < a.nodes.size from lt_of_label? hl)]

section

variable {a : Arena} {input : String} {id : ℕ} {table : Array (Option Tree)} {n : PendingNode}

/-- The children of the node before those that are finished stand behind it, and none of them is
taken yet. -/
theorem Sound.getElem?_child (h : a.Sound) (hw : a.Waiting input (id + 1) table) {child : ℕ}
    (hchild : child ∈ a.childrenOf (some id)) :
    table[child]? = some (some (a.treeAt input child)) := by
  obtain ⟨l, hl, hparent⟩ := exists_label_of_mem_childrenOf hchild
  refine hw.waits child l hl (h.parent_lt child l hl id hparent) fun p hp => ?_
  obtain rfl : id = p := Option.some.inj (hparent.symm.trans hp)
  exact Nat.lt_succ_self _

/-- Finishing a node fills its place in the table and empties those of its children. -/
theorem Sound.getElem?_finishNode (h : a.Sound) (hn : a.nodes[id]? = some n)
    (hw : a.Waiting input (id + 1) table) (j : ℕ) :
    (finishNode input table id n)[j]? =
      if j = id then some (some (a.treeAt input id))
      else if j ∈ a.childrenOf (some id) then some none else table[j]? := by
  have hl : a.label? id = some ⟨n.parent, n.rule, n.span⟩ := by rw [label?, hn, Option.map_some]
  have htrees := takeTrees_of_waiting (a.nodup_childrenOf (some id))
    fun _ hchild => h.getElem?_child hw hchild
  have hfinish : finishNode input table id n =
      (takeTrees table (a.childrenOf (some id))).2.setIfInBounds id (some (a.treeAt input id)) := by
    rw [h.treeAt_eq input hl, ← htrees, ← h.children_eq id n hn]
    rfl
  rw [hfinish, Array.getElem?_setIfInBounds, getElem?_takeTrees, size_takeTrees, hw.size_eq,
    if_pos (lt_of_label? hl)]
  by_cases hj : j = id
  · rw [if_pos hj, if_pos hj.symm]
  · rw [if_neg hj, if_neg (Ne.symm hj)]
    split
    · rename_i hchild
      rw [h.getElem?_child hw hchild, Option.map_some]
    · rfl

theorem size_finishNode : (finishNode input table id n).size = table.size := by
  rw [finishNode, Array.size_setIfInBounds, size_takeTrees]

/-- Finishing the node before those that are finished: its children do not wait any longer, and it
does. -/
theorem Sound.waiting_finishNode (h : a.Sound) (hn : a.nodes[id]? = some n)
    (hw : a.Waiting input (id + 1) table) : a.Waiting input id (finishNode input table id n) := by
  refine ⟨size_finishNode.trans hw.size_eq, fun j l hl hle hparent => ?_, fun j l hl hempty => ?_⟩
  · rw [h.getElem?_finishNode hn hw]
    by_cases hj : j = id
    · rw [if_pos hj, hj]
    · have hnot : j ∉ a.childrenOf (some id) := fun hmem =>
        Nat.lt_irrefl id (hparent id (parent_of_mem_childrenOf hl hmem))
      rw [if_neg hj, if_neg hnot]
      exact hw.waits j l hl (by omega) fun p hp => Nat.lt_succ_of_lt (hparent p hp)
  · have hj : j ≠ id := by
      rintro rfl
      obtain hlt | ⟨p, hp, hle⟩ := hempty
      · omega
      · have := h.parent_lt j l hl p hp
        omega
    rw [h.getElem?_finishNode hn hw, if_neg hj]
    split
    · rfl
    · rename_i hnot
      refine hw.empty j l hl ?_
      obtain hlt | ⟨p, hp, hle⟩ := hempty
      · exact .inl (Nat.lt_succ_of_lt hlt)
      · have hne : p ≠ id := by
          rintro rfl
          exact hnot (mem_childrenOf_of_label? hl hp)
        exact .inr ⟨p, hp, by omega⟩

end

/-- Finishing all nodes in front of those that are finished. -/
theorem Sound.waiting_finishNodes {a : Arena} (h : a.Sound) {input : String} {first : ℕ}
    {table : Array (Option Tree)} (hfirst : first ≤ a.nextId) (hw : a.Waiting input first table) :
    a.Waiting input 0 (a.finishNodes input first table) := by
  induction first generalizing table with
  | zero => exact hw
  | succ id ih =>
    have hn : a.nodes[id]? = some a.nodes[id] := Array.getElem?_eq_getElem hfirst
    rw [finishNodes, hn]
    exact ih (Nat.le_of_succ_le hfirst) (h.waiting_finishNode hn hw)

/-- When all nodes are finished, the trees of the children of the root wait, and no others. -/
theorem Sound.waiting_zero {a : Arena} (h : a.Sound) (input : String) :
    a.Waiting input 0 (a.finishNodes input a.nodes.size (Array.replicate a.nodes.size none)) :=
  h.waiting_finishNodes (Nat.le_refl _) (a.waiting_empty input)

/-- The finished tree holds the trees of the children of the root, in order. -/
theorem Sound.toTree_eq {a : Arena} (h : a.Sound) (root : Rule) (input : String) :
    a.toTree root input = .node root ⟨0, byteSize input.toList⟩ input
      ((a.childrenOf none).map (a.treeAt input)) := by
  have htop : ∀ id ∈ a.childrenOf none, (a.finishNodes input a.nodes.size
      (Array.replicate a.nodes.size none))[id]? = some (some (a.treeAt input id)) := by
    intro id hid
    obtain ⟨l, hl, hparent⟩ := exists_label_of_mem_childrenOf hid
    refine (h.waiting_zero input).waits id l hl (Nat.zero_le _) fun p hp => ?_
    rw [hparent] at hp
    cases hp
  rw [toTree, topTrees, h.rootChildren_eq, takeTrees_of_waiting (a.nodup_childrenOf _) htop]

/-- No tree is left in the table when the children of the root are taken. -/
theorem Sound.getElem?_topTrees {a : Arena} (h : a.Sound) (input : String) {id : ℕ}
    (hid : id < a.nextId) : (a.topTrees input).2[id]? = some none := by
  obtain ⟨l, hl⟩ := exists_label? hid
  have hw := h.waiting_zero input
  rw [topTrees, h.rootChildren_eq, getElem?_takeTrees]
  split
  · rw [Option.map_eq_some_iff]
    exact ⟨_, Array.getElem?_eq_getElem (by rw [hw.size_eq]; exact hid), rfl⟩
  · rename_i hmem
    refine hw.empty id l hl (.inr ?_)
    cases hp : l.parent with
    | none => exact absurd (mem_childrenOf_of_label? hl hp) hmem
    | some p => exact ⟨p, rfl, Nat.zero_le _⟩

/-- The nodes below a node in the finished tree are trees of nodes of the arena. -/
theorem Sound.exists_of_mem_nodes {a : Arena} (h : a.Sound) {input : String} {id : ℕ} {l : Label}
    (hl : a.label? id = some l) {n : Tree} (hn : n ∈ (a.treeAt input id).nodes) :
    ∃ id' l', a.label? id' = some l' ∧ n = a.treeAt input id' := by
  -- children have greater numbers, of which there are only so many
  induction hleft : a.nextId - id using Nat.strongRecOn generalizing id l with
  | ind left ih =>
    rcases Tree.mem_nodes_iff.1 hn with rfl | ⟨c, hc, hn⟩
    · exact ⟨id, l, hl, rfl⟩
    · rw [h.treeAt_eq input hl] at hc
      obtain ⟨child, hchild, rfl⟩ := List.mem_map.1 hc
      obtain ⟨l', hl', hparent⟩ := exists_label_of_mem_childrenOf hchild
      have hlt := h.parent_lt child l' hl' id hparent
      have hid := lt_of_label? hl'
      exact ih (a.nextId - child) (by omega) hl' hn rfl

/-- The nodes of the finished tree are the root and trees of nodes of the arena. -/
theorem Sound.mem_nodes_toTree {a : Arena} (h : a.Sound) {root : Rule} {input : String} {n : Tree}
    (hn : n ∈ (a.toTree root input).nodes) :
    n = a.toTree root input ∨ ∃ id l, a.label? id = some l ∧ n = a.treeAt input id := by
  rcases Tree.mem_nodes_iff.1 hn with rfl | ⟨c, hc, hn⟩
  · exact .inl rfl
  · rw [h.toTree_eq root input] at hc
    obtain ⟨child, hchild, rfl⟩ := List.mem_map.1 hc
    obtain ⟨l, hl, -⟩ := exists_label_of_mem_childrenOf hchild
    exact .inr (h.exists_of_mem_nodes hl hn)

end PatternGrammar.Arena
