import PatternGrammar.Proofs.Tree.Spans
import PatternGrammar.Proofs.Tree.Walks

/-!
# Trees of added nodes

An arena that was built by adding nodes gives a tree in which nothing is lost. Each node that was
added stands in it exactly once, below the node that it was added to, and the children of a node are
in the order in which they were added. A node is told from another one by its place in the tree,
since nodes can be equal: from the root to a node leads one way, of which each step is the number of
a child (`Arena.Arranged`).

Main result: `Arena.toTree_arranged`.
-/

namespace PatternGrammar.Arena

open PatternGrammar.Text (Span slice? byteSize slice_eq_of_slice?)

/-! ## Adding nodes -/

/-- Adds nodes one after another, and gives the numbers that they get. -/
def pushAll (a : Arena) : List Label → Arena × List ℕ
  | [] => (a, [])
  | l :: later =>
    let after := (a.push l.parent l.rule l.span).pushAll later
    (after.1, a.nextId :: after.2)

/-- The arena of the added nodes. -/
def arenaOf (added : List Label) : Arena := (pushAll {} added).1

/-- Nodes are added below the root or below nodes whose numbers were given before, and for ranges of
the input. -/
structure Addable (input : String) (added : List Label) : Prop where
  parent_mem : ∀ (i : ℕ) (hi : i < added.length), ∀ p ∈ added[i].parent,
    p ∈ (pushAll {} (added.take i)).2
  inRange : ∀ l ∈ added, l.span.InRange input

/-- The numbers of the added nodes with the given parent, in the order in which they were added. -/
def numbersBelow (added : List Label) (parent : Option ℕ) : List ℕ :=
  (List.range added.length).filter fun i => added[i]?.any (·.parent == parent)

/-- The root and the numbers of the added nodes. -/
def members (added : List Label) : List (Option ℕ) :=
  none :: (List.range added.length).map some

/-- An arena holds only numbers of its nodes and ranges of the input. -/
structure InBounds (a : Arena) (input : String) : Prop where
  children_lt : ∀ n ∈ a.nodes, ∀ id ∈ n.children, id < a.nextId
  rootChildren_lt : ∀ id ∈ a.rootChildren, id < a.nextId
  span_inRange : ∀ n ∈ a.nodes, n.span.InRange input

/-- The tree consists of the root and of the added nodes, and `way` leads to them. -/
structure Arranged (root : Rule) (input : String) (added : List Label) (t : Tree)
    (way : Option ℕ → List ℕ) : Prop where
  way_root : way none = []
  /-- The nodes that were added below a node are its children, in the order of their numbers. -/
  way_below : ∀ parent k i, (numbersBelow added parent)[k]? = some i →
    way (some i) = way parent ++ [k]
  /-- A node has no other children than these. -/
  length_children : ∀ x ∈ members added, ∃ n, t.at? (way x) = some n ∧
    n.children.length = (numbersBelow added x).length
  /-- Each of the nodes stands in the tree once, and nothing else does. -/
  ways_perm : t.ways.Perm ((members added).map way)
  ways_nodup : t.ways.Nodup
  root_eq : t.rule = root ∧ t.span = ⟨0, byteSize input.toList⟩ ∧ t.text = input
  /-- A node has the rule and the span with which it was added, and the text of the span. -/
  node_eq : ∀ i l, added[i]? = some l → ∃ n, t.at? (way (some i)) = some n ∧
    n.rule = l.rule ∧ n.span = l.span ∧ slice? input l.span = some n.text

section

variable {a : Arena} {added : List Label}

theorem nextId_pushAll : (a.pushAll added).1.nextId = a.nextId + added.length := by
  induction added generalizing a with
  | nil => rfl
  | cons l later ih =>
    rw [pushAll, ih, nextId_push, List.length_cons]
    omega

/-- The numbers go on from those of the nodes that are there. -/
theorem numbers_pushAll : (a.pushAll added).2 = List.range' a.nextId added.length := by
  induction added generalizing a with
  | nil => rfl
  | cons l later ih => rw [pushAll, ih, nextId_push, List.length_cons, List.range'_succ]

theorem label?_pushAll_of_lt {id : ℕ} (h : id < a.nextId) :
    (a.pushAll added).1.label? id = a.label? id := by
  induction added generalizing a with
  | nil => rfl
  | cons l later ih =>
    rw [pushAll, ih (by rw [nextId_push]; omega), label?_push_of_lt _ _ _ _ h]

/-- An added node is in the arena as it was added. -/
theorem label?_pushAll (i : ℕ) : (a.pushAll added).1.label? (a.nextId + i) = added[i]? := by
  induction added generalizing a i with
  | nil => exact label?_eq_none (Nat.le_add_right _ _)
  | cons l later ih =>
    have hnext := nextId_push a l.parent l.rule l.span
    rw [pushAll]
    cases i with
    | zero => rw [Nat.add_zero, label?_pushAll_of_lt (by omega), label?_push, if_pos rfl]; rfl
    | succ i => rw [List.getElem?_cons_succ, ← ih i, hnext, Nat.add_right_comm, Nat.add_assoc]

theorem Sound.pushAll (h : a.Sound)
    (hparent : ∀ i l, added[i]? = some l → ∀ p, l.parent = some p → p < a.nextId + i) :
    (a.pushAll added).1.Sound := by
  induction added generalizing a with
  | nil => exact h
  | cons l later ih =>
    refine ih (h.push (hparent 0 l rfl) l.rule l.span) fun i l' hl' p hp => ?_
    have := hparent (i + 1) l' hl' p hp
    rw [nextId_push]
    omega

end

/-! ## Places of the added nodes -/

section

variable {input : String} {added : List Label}

theorem mem_numbersBelow_iff {parent : Option ℕ} {i : ℕ} :
    i ∈ numbersBelow added parent ↔ ∃ l, added[i]? = some l ∧ l.parent = parent := by
  rw [numbersBelow, List.mem_filter, List.mem_range, Option.any_eq_true]
  constructor
  · rintro ⟨-, l, hl, hparent⟩
    exact ⟨l, hl, by simpa using hparent⟩
  · rintro ⟨l, hl, rfl⟩
    exact ⟨(List.getElem?_eq_some_iff.1 hl).1, l, hl, by simp⟩

theorem none_mem_members : none ∈ members added := List.mem_cons_self

theorem some_mem_members {i : ℕ} : some i ∈ members added ↔ i < added.length := by
  simp [members]

theorem mem_members_of_getElem? {i : ℕ} {l : Label} (hl : added[i]? = some l) :
    some i ∈ members added :=
  some_mem_members.2 (List.getElem?_eq_some_iff.1 hl).1

theorem nodup_members : (members added).Nodup := by
  refine List.nodup_cons.2 ⟨by simp, ?_⟩
  exact List.nodup_range.map (Option.some_injective ℕ)

/-- The way to a node: that to its parent, and then its place among the nodes with that parent.
Parents are added before their children, which is why this ends. -/
def wayTo (added : List Label) : Option ℕ → List ℕ
  | none => []
  | some i =>
    match added[i]? with
    | none => []
    | some l =>
      if l.parent.elim 0 (· + 1) ≤ i then
        wayTo added l.parent ++ [(numbersBelow added l.parent).idxOf i]
      else []
termination_by x => x.elim 0 (· + 1)
decreasing_by exact Nat.lt_succ_of_le ‹_›

namespace Addable

variable (h : Addable input added)
include h

theorem parent_lt {i : ℕ} {l : Label} (hl : added[i]? = some l) {p : ℕ} (hp : l.parent = some p) :
    p < i := by
  obtain ⟨hi, rfl⟩ := List.getElem?_eq_some_iff.1 hl
  have hmem := h.parent_mem i hi p hp
  rw [numbers_pushAll, List.mem_range'_1, List.length_take] at hmem
  simp only [nextId, List.size_toArray, List.length_nil] at hmem
  omega

theorem parent_mem_members {i : ℕ} {l : Label} (hl : added[i]? = some l) :
    l.parent ∈ members added := by
  cases hp : l.parent with
  | none => exact none_mem_members
  | some p =>
    have hlt := some_mem_members.1 (mem_members_of_getElem? hl)
    exact some_mem_members.2 ((h.parent_lt hl hp).trans hlt)

theorem sound : (arenaOf added).Sound :=
  sound_empty.pushAll fun i l hl p hp => by
    have := h.parent_lt hl hp
    omega

theorem wayTo_below {parent : Option ℕ} {k i : ℕ} (hk : (numbersBelow added parent)[k]? = some i) :
    wayTo added (some i) = wayTo added parent ++ [k] := by
  obtain ⟨l, hl, rfl⟩ := mem_numbersBelow_iff.1 (List.mem_of_getElem? hk)
  have hbefore : l.parent.elim 0 (· + 1) ≤ i := by
    cases hp : l.parent with
    | none => exact Nat.zero_le i
    | some p => exact h.parent_lt hl hp
  obtain ⟨hlt, rfl⟩ := List.getElem?_eq_some_iff.1 hk
  have hnodup : (numbersBelow added l.parent).Nodup := List.nodup_range.filter _
  rw [wayTo, hl]
  dsimp only
  rw [if_pos hbefore, hnodup.idxOf_getElem k hlt]

theorem exists_below {i : ℕ} (hi : some i ∈ members added) :
    ∃ (parent : Option ℕ) (k : ℕ), parent ∈ members added ∧
      (numbersBelow added parent)[k]? = some i := by
  have hl := List.getElem?_eq_getElem (some_mem_members.1 hi)
  obtain ⟨k, hk⟩ := List.getElem?_of_mem (mem_numbersBelow_iff.2 ⟨_, hl, rfl⟩)
  exact ⟨_, k, h.parent_mem_members hl, hk⟩

theorem eq_none_of_wayTo {x : Option ℕ} (hx : x ∈ members added) (hway : wayTo added x = []) :
    x = none := by
  cases x with
  | none => rfl
  | some i =>
    obtain ⟨parent, k, -, hk⟩ := h.exists_below hx
    rw [h.wayTo_below hk] at hway
    exact absurd hway (List.append_ne_nil_of_right_ne_nil _ (List.cons_ne_nil _ _))

/-- A way that is not that to the root goes through a parent. -/
theorem exists_of_wayTo_append {x : Option ℕ} {way : List ℕ} {k : ℕ} (hx : x ∈ members added)
    (hway : wayTo added x = way ++ [k]) :
    ∃ parent i, x = some i ∧ parent ∈ members added ∧ wayTo added parent = way ∧
      (numbersBelow added parent)[k]? = some i := by
  cases x with
  | none =>
    rw [wayTo] at hway
    exact absurd hway.symm (List.append_ne_nil_of_right_ne_nil _ (List.cons_ne_nil _ _))
  | some i =>
    obtain ⟨parent, k', hparent, hk⟩ := h.exists_below hx
    rw [h.wayTo_below hk] at hway
    obtain ⟨hbefore, hplace⟩ := List.append_inj' hway rfl
    obtain rfl : k' = k := (List.cons.inj hplace).1
    exact ⟨parent, i, rfl, hparent, hbefore, hk⟩

/-- No way leads to two nodes. -/
theorem wayTo_inj {x y : Option ℕ} {way : List ℕ} (hx : x ∈ members added)
    (hy : y ∈ members added) (hxway : wayTo added x = way) (hyway : wayTo added y = way) :
    x = y := by
  -- both have the same parent and the same place below it
  induction way using List.reverseRecOn generalizing x y with
  | nil => rw [h.eq_none_of_wayTo hx hxway, h.eq_none_of_wayTo hy hyway]
  | append_singleton way k ih =>
    obtain ⟨p, i, rfl, hp, hpway, hi⟩ := h.exists_of_wayTo_append hx hxway
    obtain ⟨q, j, rfl, hq, hqway, hj⟩ := h.exists_of_wayTo_append hy hyway
    rw [← hi, ← hj, ih hp hq hpway hqway]

theorem nodup_ways : ((members added).map (wayTo added)).Nodup :=
  nodup_members.map_on fun _ hx _ hy heq => h.wayTo_inj hx hy heq rfl

end Addable

/-! ## The tree of the added nodes -/

/-- The finished tree of the root or of a node. -/
def treeOf (a : Arena) (root : Rule) (input : String) (x : Option ℕ) : Tree :=
  x.elim (a.toTree root input) (a.treeAt input)

theorem label?_added (i : ℕ) : (arenaOf added).label? i = added[i]? := by
  rw [arenaOf, ← label?_pushAll (a := {}) i]
  exact congrArg (pushAll {} added).1.label? (Nat.zero_add i).symm

theorem nextId_added : (arenaOf added).nextId = added.length :=
  nextId_pushAll.trans (Nat.zero_add _)

theorem childrenOf_added (parent : Option ℕ) :
    (arenaOf added).childrenOf parent = numbersBelow added parent := by
  have hsize : (arenaOf added).nodes.size = added.length := nextId_added
  simp only [childrenOf, numbersBelow, hsize, label?_added]

namespace Addable

variable (h : Addable input added) {root : Rule}
include h

theorem children_treeOf {x : Option ℕ} (hx : x ∈ members added) :
    ((arenaOf added).treeOf root input x).children =
      (numbersBelow added x).map ((arenaOf added).treeAt input) := by
  rw [← childrenOf_added]
  cases x with
  | none => rw [treeOf, Option.elim_none, h.sound.toTree_eq, Tree.children]
  | some i =>
    have hl := (label?_added i).trans (List.getElem?_eq_getElem (some_mem_members.1 hx))
    rw [treeOf, Option.elim_some, h.sound.treeAt_eq input hl, Tree.children]

/-- The ways lead to the nodes of the tree, and no other way leads to one. -/
theorem at?_eq_some_iff {way : List ℕ} {n : Tree} :
    ((arenaOf added).toTree root input).at? way = some n ↔
      ∃ x ∈ members added, wayTo added x = way ∧ (arenaOf added).treeOf root input x = n := by
  -- the last step of a way leads to a child of the node at which the steps before it end
  induction way using List.reverseRecOn generalizing n with
  | nil =>
    constructor
    · intro hn
      exact ⟨none, none_mem_members, by rw [wayTo], Option.some.inj hn⟩
    · rintro ⟨x, hx, hway, rfl⟩
      rw [h.eq_none_of_wayTo hx hway]
      rfl
  | append_singleton way k ih =>
    rw [Tree.at?_append, Option.bind_eq_some_iff]
    constructor
    · rintro ⟨m, hm, hn⟩
      obtain ⟨x, hx, rfl, rfl⟩ := ih.1 hm
      rw [Tree.at?, h.children_treeOf hx, List.getElem?_map] at hn
      obtain ⟨c, hc, hcn⟩ := Option.bind_eq_some_iff.1 hn
      obtain ⟨i, hi, rfl⟩ := Option.map_eq_some_iff.1 hc
      obtain ⟨l, hl, -⟩ := mem_numbersBelow_iff.1 (List.mem_of_getElem? hi)
      exact ⟨some i, mem_members_of_getElem? hl, h.wayTo_below hi, Option.some.inj hcn⟩
    · rintro ⟨x, hx, hway, rfl⟩
      obtain ⟨parent, i, rfl, hparent, hpway, hi⟩ := h.exists_of_wayTo_append hx hway
      refine ⟨_, ih.2 ⟨parent, hparent, hpway, rfl⟩, ?_⟩
      rw [Tree.at?, h.children_treeOf hparent, List.getElem?_map, hi]
      rfl

theorem ways_perm :
    ((arenaOf added).toTree root input).ways.Perm ((members added).map (wayTo added)) := by
  have hways := ((arenaOf added).toTree root input).pairwise_ways.imp ne_of_lt
  refine (List.perm_ext_iff_of_nodup hways h.nodup_ways).2 fun way => ?_
  rw [Tree.mem_ways_iff, Option.isSome_iff_exists, List.mem_map]
  constructor
  · rintro ⟨n, hn⟩
    obtain ⟨x, hx, hway, -⟩ := h.at?_eq_some_iff.1 hn
    exact ⟨x, hx, hway⟩
  · rintro ⟨x, hx, hway⟩
    exact ⟨_, h.at?_eq_some_iff.2 ⟨x, hx, hway, rfl⟩⟩

theorem nodeCount_eq :
    ((arenaOf added).toTree root input).nodeCount = added.length + 1 := by
  rw [← Tree.length_ways, h.ways_perm.length_eq, List.length_map, members, List.length_cons,
    List.length_map, List.length_range]

theorem arranged :
    Arranged root input added ((arenaOf added).toTree root input) (wayTo added) := by
  refine ⟨by rw [wayTo], fun parent k i hi => h.wayTo_below hi, fun x hx => ?_, h.ways_perm,
    (Tree.pairwise_ways _).imp ne_of_lt, ⟨rfl, rfl, rfl⟩, fun i l hl => ?_⟩
  · refine ⟨_, h.at?_eq_some_iff.2 ⟨x, hx, rfl, rfl⟩, ?_⟩
    rw [h.children_treeOf hx, List.length_map]
  · have htree := h.sound.treeAt_eq input ((label?_added i).trans hl)
    obtain ⟨t, ht⟩ := Option.isSome_iff_exists.1 (h.inRange l (List.mem_of_getElem? hl))
    refine ⟨_, h.at?_eq_some_iff.2 ⟨some i, mem_members_of_getElem? hl, rfl, rfl⟩, ?_⟩
    rw [treeOf, Option.elim_some, htree, slice_eq_of_slice? ht]
    exact ⟨rfl, rfl, ht⟩

theorem inBounds : (arenaOf added).InBounds input := by
  refine ⟨fun n hn id hid => ?_, fun id hid => ?_, fun n hn => ?_⟩
  · obtain ⟨parent, hparent⟩ := Array.getElem?_of_mem hn
    rw [← Array.mem_toList_iff, h.sound.children_eq parent n hparent] at hid
    exact lt_of_mem_childrenOf hid
  · rw [← Array.mem_toList_iff, h.sound.rootChildren_eq] at hid
    exact lt_of_mem_childrenOf hid
  · obtain ⟨i, hi⟩ := Array.getElem?_of_mem hn
    have hl : added[i]? = some ⟨n.parent, n.rule, n.span⟩ := by
      rw [← label?_added, label?, hi, Option.map_some]
    exact h.inRange _ (List.mem_of_getElem? hl)

end Addable

/-- Nodes get the numbers from 0 on. When the tree is put together, all that is looked up is there
and no tree is left behind; the tree consists of the root and of the added nodes, each of them once,
below its parent and behind those that were added there before. -/
theorem toTree_arranged (h : Addable input added) (root : Rule) :
    (pushAll {} added).2 = List.range added.length ∧
      (arenaOf added).InBounds input ∧
      (∀ id < added.length, ((arenaOf added).topTrees input).2[id]? = some none) ∧
      ((arenaOf added).toTree root input).nodeCount = added.length + 1 ∧
      ∃ way, Arranged root input added ((arenaOf added).toTree root input) way := by
  refine ⟨?_, h.inBounds, fun id hid => ?_, h.nodeCount_eq, wayTo added, h.arranged⟩
  · rw [numbers_pushAll, List.range_eq_range']
    rfl
  · exact h.sound.getElem?_topTrees input (hid.trans_eq nextId_added.symm)

/-- Nodes of two branches, added in turns. Two of them are equal. -/
def interleaved : List Label :=
  [⟨none, ⟨"list", .repetition "item" 1 none⟩, ⟨0, 4⟩⟩,
    ⟨none, ⟨"rest", .literal "b"⟩, ⟨3, 4⟩⟩,
    ⟨some 0, ⟨"item", .choice ["letter"]⟩, ⟨0, 2⟩⟩,
    ⟨some 1, ⟨"letter", .literal "."⟩, ⟨3, 4⟩⟩,
    ⟨some 0, ⟨"letter", .literal "."⟩, ⟨3, 4⟩⟩,
    ⟨some 2, ⟨"letter", .literal "."⟩, ⟨0, 2⟩⟩]

theorem toTree_arranged_interleaved :
    Addable "é,b" interleaved ∧ ∃ way, Arranged rootRule "é,b" interleaved
      ((arenaOf interleaved).toTree rootRule "é,b") way ∧ way (some 4) = [0, 1] := by
  have hadd : Addable "é,b" interleaved := by
    constructor
    · decide
    · unfold Span.InRange
      decide
  obtain ⟨-, -, -, -, way, hway⟩ := toTree_arranged hadd rootRule
  refine ⟨hadd, way, hway, ?_⟩
  rw [hway.way_below (some 0) 1 4 (by decide), hway.way_below none 0 0 (by decide), hway.way_root]
  rfl

end

end PatternGrammar.Arena
