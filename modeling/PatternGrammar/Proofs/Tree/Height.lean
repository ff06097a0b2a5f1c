import PatternGrammar.Proofs.Tree.Descent

/-!
# How high trees are

Walking through a tree with a stack measures the longest way from the root to a leaf
(`Tree.height_eq_levels`). In a tree that is built, a search adds at most two nodes below one
another, the match and what explains it, and the root has at most one explanation below it before
the first search. So the limit on the depth of searches is one on the height of trees.

Main results:

* `Tree.height_le_iff`: a tree is no higher than its highest child and one more.
* `Builder.low_stateAfter`: how far below the root nodes stand as long as searches are allowed.
* `Builder.height_le_of_build`: the height of a tree that is built.
-/

namespace PatternGrammar

open PatternGrammar.Text (Span)

/-! ## Walks -/

namespace Tree

mutual

/-- The number of nodes on the longest way from the root to a leaf, by recursion. -/
def levels : Tree → ℕ
  | node _ _ _ cs => levelsOf cs + 1

/-- The levels of a row of trees, by recursion. -/
def levelsOf : List Tree → ℕ
  | [] => 0
  | t :: ts => max (levels t) (levelsOf ts)

end

theorem levels_eq (t : Tree) : t.levels = levelsOf t.children + 1 := by
  cases t
  rw [levels, children]

theorem levelsOf_le_iff {ts : List Tree} {n : ℕ} : levelsOf ts ≤ n ↔ ∀ t ∈ ts, t.levels ≤ n := by
  induction ts with
  | nil => simp [levelsOf]
  | cons t ts ih => rw [levelsOf, Nat.max_le, ih, List.forall_mem_cons]

/-- The walk reaches what is highest in the stack. -/
theorem heightOf_le_iff {deepest : ℕ} {stack : List (Tree × ℕ)} {n : ℕ} :
    heightOf deepest stack ≤ n ↔ deepest ≤ n ∧ ∀ p ∈ stack, p.2 + levelsOf p.1.children ≤ n := by
  induction deepest, stack using heightOf.induct with
  | case1 deepest => simp [heightOf]
  | case2 deepest t level rest ih =>
    have hchildren : (∀ p ∈ (t.children.map fun c => (c, level + 1)).reverse,
        p.2 + levelsOf p.1.children ≤ n) ↔ ∀ c ∈ t.children, level + c.levels ≤ n := by
      simp only [List.mem_reverse, List.forall_mem_map]
      refine forall₂_congr fun c _ => ?_
      rw [levels_eq, Nat.add_assoc, Nat.add_comm 1]
    have hlevel : level + levelsOf t.children ≤ n ↔
        level ≤ n ∧ ∀ c ∈ t.children, level + c.levels ≤ n := by
      constructor
      · intro h
        refine ⟨by omega, fun c hc => ?_⟩
        have := levelsOf_le_iff.1 (Nat.le_refl (levelsOf t.children)) c hc
        omega
      · rintro ⟨hlevel, hchildren⟩
        have : levelsOf t.children ≤ n - level :=
          levelsOf_le_iff.2 fun c hc => Nat.le_sub_of_add_le' (hchildren c hc)
        omega
    rw [heightOf, ih, Nat.max_le, List.forall_mem_append, hchildren, List.forall_mem_cons, hlevel]
    tauto

/-- The walk measures what the recursion does. -/
theorem height_eq_levels (t : Tree) : t.height = t.levels := by
  have hle : ∀ n, t.height ≤ n ↔ t.levels ≤ n := by
    intro n
    rw [height, heightOf_le_iff, List.forall_mem_singleton, levels_eq, Nat.add_comm 1]
    simp
  exact Nat.le_antisymm ((hle _).2 (Nat.le_refl _)) ((hle _).1 (Nat.le_refl _))

theorem height_le_iff {t : Tree} {n : ℕ} :
    t.height ≤ n + 1 ↔ ∀ c ∈ t.children, c.height ≤ n := by
  simp only [height_eq_levels]
  rw [levels_eq, Nat.add_le_add_iff_right, levelsOf_le_iff]

theorem height_pos (t : Tree) : 0 < t.height := by
  rw [height_eq_levels, levels_eq]
  exact Nat.succ_pos _

end Tree

/-! ## Arenas -/

namespace Arena

/-- The nodes of the arena stand at most `limit` levels below the root. -/
def Low (a : Arena) (limit : ℕ) : Prop := ∀ id < a.nextId, (a.keys (some id)).length ≤ limit

variable {a : Arena} {limit : ℕ}

theorem low_empty (limit : ℕ) : Low {} limit := fun id hid => absurd hid (Nat.not_lt_zero id)

theorem Low.push (h : a.Low limit) (ha : a.Sound) {parent : Option ℕ}
    (hparent : ∀ p, parent = some p → p < a.nextId) (hlow : (a.keys parent).length < limit)
    (r : Rule) (span : Span) : (a.push parent r span).Low limit := by
  intro id hid
  rw [nextId_push] at hid
  rcases Nat.lt_succ_iff_lt_or_eq.1 hid with hid | rfl
  · rw [ha.keys_push parent r span fun p hp => Option.some.inj hp ▸ hid]
    exact h id hid
  · rw [Builder.keys_push_self ha hparent, List.length_cons]
    exact hlow

/-- The tree of a node is no higher than what is left below the node. -/
theorem Low.height_treeAt_le (h : a.Low limit) (ha : a.Sound) {input : String} {id : ℕ}
    (hid : id < a.nextId) :
    (a.treeAt input id).height + (a.keys (some id)).length ≤ limit + 1 := by
  -- children have greater numbers, of which there are only so many
  induction hleft : a.nextId - id using Nat.strongRecOn generalizing id with
  | ind left ih =>
    obtain ⟨l, hl⟩ := exists_label? hid
    have hlow := h id hid
    suffices hle : (a.treeAt input id).height ≤ limit - (a.keys (some id)).length + 1 by omega
    rw [Tree.height_le_iff, ha.treeAt_eq input hl]
    refine List.forall_mem_map.2 fun child hchild => ?_
    obtain ⟨l', hl', hparent⟩ := exists_label_of_mem_childrenOf hchild
    have hlt := ha.parent_lt child l' hl' id hparent
    have hchild := lt_of_label? hl'
    have hrest := ih (a.nextId - child) (by omega) hchild rfl
    rw [ha.keys_some hl', hparent, List.length_cons] at hrest
    omega

theorem Low.height_toTree_le (h : a.Low limit) (ha : a.Sound) {root : Rule} {input : String} :
    (a.toTree root input).height ≤ limit + 1 := by
  rw [Tree.height_le_iff, ha.toTree_eq root input]
  refine List.forall_mem_map.2 fun child hchild => ?_
  obtain ⟨l, hl, hparent⟩ := exists_label_of_mem_childrenOf hchild
  have hheight : (a.treeAt input child).height + (a.keys (some child)).length ≤ limit + 1 :=
    h.height_treeAt_le ha (lt_of_label? hl)
  rw [ha.keys_some hl, hparent, keys_none, List.length_singleton] at hheight
  omega

end Arena

/-! ## The work -/

namespace Builder

variable {b : Builder} {limit : ℕ}

/-- The second arena has come from the first by adding nodes, none of them too far below the
root. -/
structure GrowsLow (limit : ℕ) (a a' : Arena) : Prop where
  sound : a'.Sound
  grows : Grows a a'
  low : a.Low limit → a'.Low limit

namespace GrowsLow

variable {a a' a'' : Arena}

theorem refl (ha : a.Sound) : GrowsLow limit a a := ⟨ha, .refl a, id⟩

theorem trans (h : GrowsLow limit a a') (h' : GrowsLow limit a' a'') : GrowsLow limit a a'' :=
  ⟨h'.sound, h.grows.trans h'.grows, fun hlow => h'.low (h.low hlow)⟩

theorem push (ha : a.Sound) {parent : Option ℕ} (hparent : ∀ p, parent = some p → p < a.nextId)
    (hlow : (a.keys parent).length < limit) (r : Rule) (span : Span) :
    GrowsLow limit a (a.push parent r span) :=
  ⟨ha.push hparent r span, grows_push ha parent r span, fun h => h.push ha hparent hlow r span⟩

end GrowsLow

/-- Explaining a node adds at most one node, below it. -/
theorem explain_growsLow {arena : Arena} (h : arena.Sound) {node : Option ℕ}
    (hnode : ∀ p, node = some p → p < arena.nextId) (hlow : (arena.keys node).length < limit)
    (rule : Rule) (span : Span) (depth : ℕ) :
    GrowsLow limit arena (b.explain arena node rule span depth).1 := by
  unfold explain
  split
  · exact .refl h
  · exact .refl h
  · exact .refl h
  · exact .push h hnode hlow _ _

/-- A search adds at most two nodes below one another. -/
theorem addMatches_growsLow {arena : Arena} (h : arena.Sound) {s : Search}
    (hparent : ∀ p, s.parent = some p → p < arena.nextId)
    (hlow : (arena.keys s.parent).length + 1 < limit) (spans : List Span) :
    GrowsLow limit arena (b.addMatches s arena spans).1 := by
  induction spans generalizing arena with
  | nil => exact .refl h
  | cons span spans ih =>
    have hpush := GrowsLow.push h hparent (Nat.lt_of_succ_lt hlow) s.rule span
    have hself := keys_push_self h hparent s.rule span
    have hexplain : GrowsLow limit arena _ := hpush.trans
      (b.explain_growsLow hpush.sound (lt_nextId_push arena s.parent s.rule span)
        (by rw [hself, List.length_cons]; exact hlow) s.rule span s.depth)
    refine hexplain.trans (ih hexplain.sound (fun p hp => ?_) ?_)
    · exact Nat.lt_of_lt_of_le (hparent p hp) hexplain.grows.nextId_le
    · rw [hexplain.grows.keys_eq _ hparent]
      exact hlow

/-- A way down has at most two nodes for each of its stages, and one at the root. -/
theorem length_keysOf_le (b : Builder) (stages : List Stage) :
    (b.keysOf stages).length ≤ 2 * stages.length + 1 := by
  have hattached : ∀ stage : Stage, stage.attached.length ≤ 1 := by
    intro stage
    unfold Stage.attached
    split <;> simp
  induction stages with
  | nil =>
    rw [keysOf, rootKeys]
    cases b.rootStage? with
    | none => exact Nat.zero_le _
    | some stage => exact hattached stage
  | cons stage above ih =>
    have := hattached stage
    rw [keysOf, List.length_append, List.length_cons, List.length_cons]
    omega

/-- As long as searches are allowed, the nodes stand no further below the root than two levels for
each level of searches, and one. -/
theorem low_stateAfter {turns : ℕ} (h : ∀ n < turns, b.Fits n) :
    (b.stateAfter turns).1.Low (2 * b.maxDepth + 1) := by
  induction turns with
  | zero =>
    -- at most one node, below the root
    rw [stateAfter, initial_eq]
    cases b.rootStage? with
    | none => exact Arena.low_empty _
    | some stage =>
      dsimp only
      split
      · exact Arena.low_empty _
      · exact (Arena.low_empty _).push Arena.sound_empty (by simp) (by simp) _ _
  | succ turns ih =>
    have hlow := ih fun n hn => h n (Nat.lt_succ_of_lt hn)
    cases hstack : (b.stateAfter turns).2 with
    | nil =>
      rw [stateAfter_of_end hstack (Nat.le_succ turns)]
      exact hlow
    | cons s rest =>
      obtain ⟨hconsistent, hwaits⟩ := consistent_stateAfter b turns
      obtain ⟨above, hs⟩ := hwaits s (hstack ▸ List.mem_cons_self)
      have hdepth : s.depth ≤ b.maxDepth :=
        h turns (Nat.lt_succ_self turns) s (by rw [hstack]; rfl)
      have hkeys := b.length_keysOf_le above
      rw [← hs.keys] at hkeys
      have hroom : ((b.stateAfter turns).1.keys s.parent).length + 1 < 2 * b.maxDepth + 1 := by
        have := hs.depth
        omega
      rw [stateAfter_succ hstack]
      exact (addMatches_growsLow hconsistent.sound hs.parent hroom (b.found s)).low hlow

/-- A tree that is built has at most two levels for each level of searches that is allowed, and two
more. -/
theorem height_le_of_build {t : Tree} (h : b.build = .ok t) : t.height ≤ 2 * b.maxDepth + 2 := by
  obtain ⟨turns, hfits, -, rfl⟩ := build_eq_ok_iff.1 h
  exact (low_stateAfter hfits).height_toTree_le (consistent_stateAfter b turns).1.sound

end Builder

end PatternGrammar
