import PatternGrammar.Proofs.Tree.Descent

/-!
# Trees that an arena gains

When nodes are added to an arena, the nodes that were there get new children behind those that they
had. `Arena.Gains` tells what the finished trees of these new children are, for each node that was
there. Gains from one arena to the next add up as long as the later ones stay away from the nodes
that came in between (`Arena.Gains.trans`); a node whose own gain is known turns into a tree of its
parent's gain (`Arena.Gains.absorb`).
-/

namespace PatternGrammar.Arena

open PatternGrammar.Text (Span slice)

/-- A node of the arena, or the root. -/
def Has (a : Arena) (x : Option ℕ) : Prop := ∀ id, x = some id → id < a.nextId

theorem has_none (a : Arena) : a.Has none := fun _ h => nomatch h

theorem has_some {a : Arena} {id : ℕ} : a.Has (some id) ↔ id < a.nextId :=
  ⟨fun h => h id rfl, fun h _ heq => Option.some.inj heq ▸ h⟩

theorem Has.mono {a a' : Arena} {x : Option ℕ} (h : a.Has x) (hle : a.nextId ≤ a'.nextId) :
    a'.Has x :=
  fun id hid => Nat.lt_of_lt_of_le (h id hid) hle

theorem has_push {a : Arena} {x : Option ℕ} (parent : Option ℕ) (r : Rule) (span : Span)
    (h : a.Has x) : (a.push parent r span).Has x := by
  refine h.mono ?_
  rw [nextId_push]
  exact Nat.le_succ _

theorem ne_nextId {a : Arena} {x : Option ℕ} (h : a.Has x) : x ≠ some a.nextId :=
  fun heq => Nat.lt_irrefl _ (h _ heq)

/-- The second arena has come from the first by adding nodes, and `gain` gives the trees of the new
children of each node that was in the first. -/
structure Gains (input : String) (a a' : Arena) (gain : Option ℕ → List Tree) : Prop where
  sound : a'.Sound
  nextId_le : a.nextId ≤ a'.nextId
  label_eq : ∀ id < a.nextId, a'.label? id = a.label? id
  children : ∀ x, a.Has x → ∃ ids, a'.childrenOf x = a.childrenOf x ++ ids ∧
    (∀ id ∈ ids, a.nextId ≤ id) ∧ ids.map (a'.treeAt input) = gain x

namespace Gains

variable {input : String} {a a' a'' : Arena} {gain gain' : Option ℕ → List Tree}

theorem refl (h : a.Sound) : Gains input a a fun _ => [] :=
  ⟨h, Nat.le_refl _, fun _ _ => rfl, fun _ _ => ⟨[], by simp, by simp, rfl⟩⟩

theorem congr (h : Gains input a a' gain) (heq : ∀ x, a.Has x → gain x = gain' x) :
    Gains input a a' gain' :=
  ⟨h.sound, h.nextId_le, h.label_eq, fun x hx => heq x hx ▸ h.children x hx⟩

/-- The ways up from the nodes that were there stay the same. -/
theorem grows (h : Gains input a a' gain) (ha : a.Sound) : Builder.Grows a a' := by
  refine ⟨h.nextId_le, fun node hnode => ?_⟩
  cases node with
  | none => rw [keys_none, keys_none]
  | some id =>
    have hid : id < a.nextId := hnode id rfl
    exact map_pathFrom_congr ha (Nat.lt_of_lt_of_le hid h.nextId_le) hid
      fun i hi => h.label_eq i (by omega)

/-- The tree of a node stays the same if from its number on no node gains children. -/
theorem treeAt_eq (h : Gains input a a' gain) (ha : a.Sound) {low : ℕ}
    (hgain : ∀ id, low ≤ id → id < a.nextId → gain (some id) = []) {id : ℕ} (hlow : low ≤ id)
    (hid : id < a.nextId) : a'.treeAt input id = a.treeAt input id := by
  induction hleft : a.nextId - id using Nat.strongRecOn generalizing id with
  | ind left ih =>
    obtain ⟨l, hl⟩ := exists_label? hid
    obtain ⟨ids, hids, -, htrees⟩ := h.children (some id) (has_some.2 hid)
    rw [hgain id hlow hid, List.map_eq_nil_iff] at htrees
    rw [h.sound.treeAt_eq input ((h.label_eq id hid).trans hl), ha.treeAt_eq input hl, hids, htrees,
      List.append_nil]
    congr 1
    refine List.map_congr_left fun child hchild => ?_
    obtain ⟨l', hl', hparent⟩ := exists_label_of_mem_childrenOf hchild
    have hlt := ha.parent_lt child l' hl' id hparent
    have hchild := lt_of_label? hl'
    exact ih (a.nextId - child) (by omega) (by omega) hchild rfl

/-- What an arena gains in two goes, the second of which stays away from the nodes of the first. -/
theorem trans (h : Gains input a a' gain) (h' : Gains input a' a'' gain')
    (haway : ∀ id, a.nextId ≤ id → id < a'.nextId → gain' (some id) = []) :
    Gains input a a'' fun x => gain x ++ gain' x := by
  refine ⟨h'.sound, Nat.le_trans h.nextId_le h'.nextId_le, fun id hid => ?_, fun x hx => ?_⟩
  · rw [h'.label_eq id (Nat.lt_of_lt_of_le hid h.nextId_le), h.label_eq id hid]
  · obtain ⟨ids, hids, hnew, htrees⟩ := h.children x hx
    obtain ⟨ids', hids', hnew', htrees'⟩ := h'.children x (hx.mono h.nextId_le)
    refine ⟨ids ++ ids', by rw [hids', hids, List.append_assoc], ?_, ?_⟩
    · refine List.forall_mem_append.2 ⟨hnew, fun id hid => ?_⟩
      exact Nat.le_trans h.nextId_le (hnew' id hid)
    · rw [List.map_append, htrees', ← htrees]
      congr 1
      refine List.map_congr_left fun id hid => ?_
      have hmem : id ∈ a'.childrenOf x := by
        rw [hids]
        exact List.mem_append_right _ hid
      exact h'.treeAt_eq h.sound haway (hnew id hid) (lt_of_mem_childrenOf hmem)

/-- A node with the trees that it gains is a tree that its parent gains. -/
theorem absorb {parent : Option ℕ} {r : Rule} {span : Span} (ha : a.Sound) (hparent : a.Has parent)
    (h : Gains input (a.push parent r span) a' gain) :
    Gains input a a' fun x =>
      (if parent = x then [.node r span (slice input span) (gain (some a.nextId))] else []) ++
        gain x := by
  have hnext := nextId_push a parent r span
  have hle := h.nextId_le
  rw [hnext] at hle
  have hself : a.nextId < (a.push parent r span).nextId := by
    rw [hnext]
    exact Nat.lt_succ_self _
  have hlabel : a'.label? a.nextId = some ⟨parent, r, span⟩ := by
    rw [h.label_eq _ hself, label?_push, if_pos rfl]
  -- the node is new, so that all its children are gained
  have htree : a'.treeAt input a.nextId = .node r span (slice input span) (gain (some a.nextId)) := by
    obtain ⟨ids, hids, -, htrees⟩ := h.children (some a.nextId) (has_some.2 hself)
    have hnone : a.childrenOf (some a.nextId) = [] := by
      refine List.eq_nil_iff_forall_not_mem.2 fun id hid => ?_
      obtain ⟨l, hl, hp⟩ := exists_label_of_mem_childrenOf hid
      have := ha.parent_lt id l hl _ hp
      have := lt_of_label? hl
      omega
    rw [childrenOf_push, hnone, if_neg (ne_nextId hparent)] at hids
    rw [h.sound.treeAt_eq input hlabel, hids, List.nil_append, List.nil_append, htrees]
  refine ⟨h.sound, by omega, fun id hid => ?_, fun x hx => ?_⟩
  · rw [h.label_eq id (by omega), label?_push_of_lt a parent r span hid]
  · obtain ⟨ids, hids, hnew, htrees⟩ := h.children x (has_push parent r span hx)
    rw [childrenOf_push] at hids
    refine ⟨(if parent = x then [a.nextId] else []) ++ ids, by rw [hids, List.append_assoc], ?_, ?_⟩
    · refine List.forall_mem_append.2 ⟨?_, fun id hid => ?_⟩
      · split <;> simp
      · have := hnew id hid
        omega
    · rw [List.map_append, htrees]
      split
      · rw [List.map_singleton, htree]
      · rfl

end Gains

end PatternGrammar.Arena
