import PatternGrammar.Proofs.Text.Slices
import PatternGrammar.Proofs.Tree.Arena
import PatternGrammar.Proofs.Tree.Run

/-!
# Ways down the tree

A search waits because of the explanations that the work went on with, from the root down to it.
Such a way down is a list of stages, the last one first (`Builder.Descends`). It tells everything
about the search: the rules and spans of the nodes on the way up from where its matches go, and its
depth.

Main results:

* `Builder.consistent_stateAfter`: in every state each node was found by a search or attached as an
  explanation, and each search that waits comes from a way down.
* `Builder.exists_turn_of_descends`: in work that ends, each search that a way down leads to gets
  its turn.
-/

namespace PatternGrammar

open PatternGrammar.Text (Span slice byteSize wholeSpan)

/-! ## Stages -/

/-- A node that a search has found, and the explanation that the work goes on with inside it. -/
structure Stage where
  rule : Rule
  span : Span
  explanation : Explanation

namespace Stage

/-- Whether the node is explained by its own rule. -/
def isOwn (s : Stage) : Bool := s.explanation.rule.name == s.rule.name

/-- The node that was found, as it is compared on a way up. -/
def found (s : Stage) : String × Span := (s.rule.name, s.span)

/-- The explaining rule, by name, and the span that it explains. -/
def explained (s : Stage) : String × Span := (s.explanation.rule.name, s.span)

/-- The node of the explanation, where it is not that of the search. -/
def attached (s : Stage) : List (String × Span) := if s.isOwn then [] else [s.explained]

theorem explained_eq_found {s : Stage} (h : s.isOwn) : s.explained = s.found := by
  rw [isOwn, beq_iff_eq] at h
  rw [explained, found, h]

end Stage

namespace Builder

variable (b : Builder)

/-! ## What the work consists of -/

/-- What explains the text of a node that a rule produced. -/
def explanation (rule : Rule) (span : Span) : Option Explanation :=
  (b.grammar.explain (slice b.input span) rule.name).filter fun e => !e.groups.isEmpty

/-- The rules that an explanation leads to, and the spans that they are searched in. -/
def parts (e : Explanation) (span : Span) : List (Rule × Span) :=
  (targets e ⟨0, span.stop - span.start⟩).filterMap fun (name, group) =>
    (b.grammar.find? name).map fun r => (r.rule, group.shift span.start)

/-- The spans of the matches of a rule in a span that are not empty. -/
def matchesIn (rule : Rule) (span : Span) : List Span :=
  b.found ⟨none, span, rule, 0⟩

theorem found_eq (s : Search) : b.found s = b.matchesIn s.rule s.span := rfl

theorem searchesOf_eq (e : Explanation) (node : Option ℕ) (span : Span) (depth : ℕ) :
    b.searchesOf e node span depth =
      (b.parts e span).map fun part => ⟨node, part.2, part.1, depth + 1⟩ := by
  rw [searchesOf, parts, List.map_filterMap]
  congr 1
  funext target
  rw [Option.map_map]
  rfl

/-- Explaining a node, by what explains it. -/
theorem explain_eq (arena : Arena) (node : Option ℕ) (rule : Rule) (span : Span) (depth : ℕ) :
    b.explain arena node rule span depth =
      match b.explanation rule span with
      | none => (arena, [])
      | some e =>
        if e.rule.name == rule.name then (arena, b.searchesOf e node span depth)
        else if arena.onPath node e.rule.name span then (arena, [])
        else (arena.push node e.rule span, b.searchesOf e (some arena.nextId) span depth) := by
  unfold explain outcome explanation
  cases h : b.grammar.explain (slice b.input span) rule.name with
  | none => rfl
  | some e =>
    rw [Option.filter_some]
    by_cases hgroups : e.groups.isEmpty
    · simp [hgroups]
    · by_cases hown : e.rule.name == rule.name
      · simp only [hgroups, hown, Bool.not_false, if_true, Bool.false_eq_true, if_false]
      · by_cases hpath : arena.onPath node e.rule.name span <;>
          simp only [hgroups, hown, hpath, Bool.not_false, if_true, Bool.false_eq_true, if_false]

/-- The explanation of the whole input, as a stage in which the root is the node. -/
def rootStage? : Option Stage :=
  if b.input.isEmpty then none
  else (b.explanation rootRule (wholeSpan b.input)).map fun e => ⟨rootRule, wholeSpan b.input, e⟩

/-- The node that is attached to the root. -/
def rootKeys : List (String × Span) := b.rootStage?.elim [] Stage.attached

/-! ## Ways down -/

/-- The nodes on the way up from where the last explanation has led to. -/
def keysOf : List Stage → List (String × Span)
  | [] => b.rootKeys
  | stage :: above => stage.attached ++ stage.found :: keysOf above

/-- The rules, by name, that the work went on with, and the spans that they explain. -/
def explainedOn (stages : List Stage) : List (String × Span) :=
  (stages ++ b.rootStage?.toList).map Stage.explained

/-- The searches that a way down leads to: the rules and the spans that they are searched in. -/
def searchesAt : List Stage → List (Rule × Span)
  | [] =>
    b.rootStage?.elim [] (fun stage => b.parts stage.explanation stage.span) ++
      if b.rootKeys.isEmpty then [(b.grammar.startRule, wholeSpan b.input)] else []
  | stage :: _ => b.parts stage.explanation stage.span

/-- The stages, the last one first, are explanations that the work goes on with one inside another,
beginning below the root. -/
inductive Descends : List Stage → Prop where
  | root : Descends []
  | inside {stage : Stage} {above : List Stage} {outer : Span} (habove : Descends above)
    (hsearch : (stage.rule, outer) ∈ b.searchesAt above)
    (hfound : stage.span ∈ b.matchesIn stage.rule outer)
    (hexplanation : b.explanation stage.rule stage.span = some stage.explanation)
    (hguard : stage.isOwn = false → stage.explained ∉ b.keysOf above) :
    Descends (stage :: above)

variable {b}

theorem descends_cons_iff {stage : Stage} {above : List Stage} :
    b.Descends (stage :: above) ↔ b.Descends above ∧
      (∃ search ∈ b.searchesAt above, search.1 = stage.rule ∧
        stage.span ∈ b.matchesIn stage.rule search.2) ∧
      b.explanation stage.rule stage.span = some stage.explanation ∧
      (stage.isOwn = false → stage.explained ∉ b.keysOf above) := by
  constructor
  · intro h
    cases h with
    | inside habove hsearch hfound hexplanation hguard =>
      exact ⟨habove, ⟨_, hsearch, rfl, hfound⟩, hexplanation, hguard⟩
  · rintro ⟨habove, ⟨⟨r, outer⟩, hsearch, rfl, hfound⟩, hexplanation, hguard⟩
    exact .inside habove hsearch hfound hexplanation hguard

/-- Keys of nodes are compared by their names and their spans. -/
instance lawfulBEqKey : LawfulBEq (String × Span) := inferInstance

instance decidableDescends (b : Builder) : (stages : List Stage) → Decidable (b.Descends stages)
  | [] => .isTrue .root
  | _ :: above =>
    have := decidableDescends b above
    decidable_of_iff _ descends_cons_iff.symm

/-! ## Nodes and searches of a state -/

/-- The search waits because of a way down. -/
structure Waits (b : Builder) (arena : Arena) (s : Search) (stages : List Stage) : Prop where
  descends : b.Descends stages
  search : (s.rule, s.span) ∈ b.searchesAt stages
  keys : arena.keys s.parent = b.keysOf stages
  depth : s.depth = stages.length + 1
  parent : ∀ p, s.parent = some p → p < arena.nextId

/-- How a node has come into the arena: a search has found it, it explains such a node, or it
explains the whole input. -/
inductive Placed (b : Builder) (arena : Arena) (l : Arena.Label) : Prop where
  | found {above : List Stage} {outer : Span} (hdescends : b.Descends above)
    (hsearch : (l.rule, outer) ∈ b.searchesAt above) (hfound : l.span ∈ b.matchesIn l.rule outer)
    (hkeys : arena.keys l.parent = b.keysOf above)
  | attached {stage : Stage} {above : List Stage} (hdescends : b.Descends (stage :: above))
    (hother : stage.isOwn = false) (hrule : l.rule = stage.explanation.rule)
    (hspan : l.span = stage.span) (hkeys : arena.keys l.parent = stage.found :: b.keysOf above)
  | ofRoot {stage : Stage} (hroot : b.rootStage? = some stage) (hother : stage.isOwn = false)
    (hrule : l.rule = stage.explanation.rule) (hspan : l.span = stage.span)
    (hparent : l.parent = none)

/-- Every node of a sound arena has come into it as a node of the tree does. -/
structure Consistent (b : Builder) (arena : Arena) : Prop where
  sound : arena.Sound
  placed : ∀ id l, arena.label? id = some l → b.Placed arena l

/-! ## Growing arenas -/

/-- The second arena has come from the first by adding nodes. -/
structure Grows (a a' : Arena) : Prop where
  nextId_le : a.nextId ≤ a'.nextId
  keys_eq : ∀ node, (∀ id, node = some id → id < a.nextId) → a'.keys node = a.keys node

theorem Grows.refl (a : Arena) : Grows a a := ⟨Nat.le_refl _, fun _ _ => rfl⟩

theorem Grows.trans {a a' a'' : Arena} (h : Grows a a') (h' : Grows a' a'') : Grows a a'' := by
  refine ⟨Nat.le_trans h.nextId_le h'.nextId_le, fun node hnode => ?_⟩
  rw [h'.keys_eq node fun id hid => Nat.lt_of_lt_of_le (hnode id hid) h.nextId_le,
    h.keys_eq node hnode]

theorem grows_push {a : Arena} (h : a.Sound) (parent : Option ℕ) (r : Rule) (span : Span) :
    Grows a (a.push parent r span) := by
  refine ⟨?_, fun node hnode => h.keys_push parent r span hnode⟩
  rw [Arena.nextId_push]
  exact Nat.le_succ _

theorem Waits.mono {a a' : Arena} {s : Search} {stages : List Stage} (h : b.Waits a s stages)
    (hgrows : Grows a a') : b.Waits a' s stages :=
  ⟨h.descends, h.search, (hgrows.keys_eq _ h.parent).trans h.keys, h.depth,
    fun p hp => Nat.lt_of_lt_of_le (h.parent p hp) hgrows.nextId_le⟩

theorem Placed.mono {a a' : Arena} {l : Arena.Label} (h : b.Placed a l) (hgrows : Grows a a')
    (hparent : ∀ p, l.parent = some p → p < a.nextId) : b.Placed a' l := by
  have hkeys := hgrows.keys_eq l.parent hparent
  cases h with
  | found hdescends hsearch hfound h => exact .found hdescends hsearch hfound (hkeys.trans h)
  | attached hdescends hother hrule hspan h =>
    exact .attached hdescends hother hrule hspan (hkeys.trans h)
  | ofRoot hroot hother hrule hspan h => exact .ofRoot hroot hother hrule hspan h

/-- A node that has its place can be added. -/
theorem Consistent.push {a : Arena} (h : b.Consistent a) {parent : Option ℕ} {r : Rule}
    {span : Span} (hparent : ∀ p, parent = some p → p < a.nextId)
    (hplaced : b.Placed a ⟨parent, r, span⟩) : b.Consistent (a.push parent r span) := by
  have hgrows := grows_push h.sound parent r span
  refine ⟨h.sound.push hparent r span, fun id l hl => ?_⟩
  rw [Arena.label?_push] at hl
  split at hl
  · obtain rfl := Option.some.inj hl
    exact hplaced.mono hgrows hparent
  · refine (h.placed id l hl).mono hgrows fun p hp => ?_
    exact Nat.lt_trans (h.sound.parent_lt id l hl p hp) (Arena.lt_of_label? hl)

/-- The way up from a node that was just added. -/
theorem keys_push_self {a : Arena} (h : a.Sound) {parent : Option ℕ}
    (hparent : ∀ p, parent = some p → p < a.nextId) (r : Rule) (span : Span) :
    (a.push parent r span).keys (some a.nextId) = (r.name, span) :: a.keys parent := by
  have hlabel : (a.push parent r span).label? a.nextId = some ⟨parent, r, span⟩ := by
    rw [Arena.label?_push, if_pos rfl]
  rw [(h.push hparent r span).keys_some hlabel, h.keys_push parent r span hparent]

theorem lt_nextId_push (a : Arena) (parent : Option ℕ) (r : Rule) (span : Span) :
    ∀ p, some a.nextId = some p → p < (a.push parent r span).nextId := by
  rintro p ⟨⟩
  rw [Arena.nextId_push]
  exact Nat.lt_succ_self _

/-! ## What a turn keeps -/

/-- The searches that an explanation leads to wait because of the way down to it. -/
theorem waits_searchesOf {arena : Arena} {stage : Stage} {above : List Stage} {node : Option ℕ}
    {s : Search} (hdescends : b.Descends (stage :: above))
    (hkeys : arena.keys node = b.keysOf (stage :: above))
    (hnode : ∀ p, node = some p → p < arena.nextId)
    (hs : s ∈ b.searchesOf stage.explanation node stage.span (above.length + 1)) :
    b.Waits arena s (stage :: above) := by
  rw [searchesOf_eq] at hs
  obtain ⟨part, hpart, rfl⟩ := List.mem_map.1 hs
  exact ⟨hdescends, hpart, hkeys, rfl, hnode⟩

/-- Stages that go on from one way down with the same node are the same. -/
theorem Descends.stage_eq {stage stage' : Stage} {above : List Stage}
    (h : b.Descends (stage :: above)) (h' : b.Descends (stage' :: above))
    (hrule : stage.rule = stage'.rule) (hspan : stage.span = stage'.span) : stage = stage' := by
  obtain ⟨-, -, he, -⟩ := descends_cons_iff.1 h
  obtain ⟨-, -, he', -⟩ := descends_cons_iff.1 h'
  rw [hrule, hspan, he'] at he
  have hexplanation := Option.some.inj he
  cases stage
  cases stage'
  rw [Stage.mk.injEq]
  exact ⟨hrule, hspan, hexplanation.symm⟩

/-- Explaining a node of a way down leads to the node that the way goes on below. -/
theorem explain_of_descends {arena : Arena} {stage : Stage} {above : List Stage} {node : Option ℕ}
    (h : b.Consistent arena) (hway : b.Descends (stage :: above))
    (hnode : ∀ p, node = some p → p < arena.nextId)
    (hkeys : arena.keys node = stage.found :: b.keysOf above) (depth : ℕ) :
    ∃ arena' node', b.explain arena node stage.rule stage.span depth =
        (arena', b.searchesOf stage.explanation node' stage.span depth) ∧
      b.Consistent arena' ∧ Grows arena arena' ∧
      arena'.keys node' = b.keysOf (stage :: above) ∧
      ∀ p, node' = some p → p < arena'.nextId := by
  obtain ⟨-, -, he, hguard⟩ := descends_cons_iff.1 hway
  rw [explain_eq, he]
  dsimp only
  cases hown : stage.isOwn with
  | true =>
    refine ⟨arena, node, if_pos hown, h, .refl _, ?_, hnode⟩
    rw [hkeys, keysOf, Stage.attached, hown]
    rfl
  | false =>
    have hname : ¬(stage.explanation.rule.name == stage.rule.name) = true := by
      rw [Bool.not_eq_true]
      exact hown
    have hpath : ¬arena.onPath node stage.explanation.rule.name stage.span = true := by
      rw [Arena.onPath_iff, hkeys, List.mem_cons, not_or]
      refine ⟨fun heq => hname ?_, hguard hown⟩
      rw [beq_iff_eq]
      exact (Prod.mk.inj heq).1
    refine ⟨arena.push node stage.explanation.rule stage.span, some arena.nextId, ?_,
      h.push hnode (.attached hway hown rfl rfl hkeys), grows_push h.sound _ _ _, ?_,
      lt_nextId_push _ _ _ _⟩
    · rw [if_neg hname, if_neg hpath]
    · rw [keys_push_self h.sound hnode, hkeys, keysOf, Stage.attached, hown]
      rfl

/-- Explaining a node that no way down goes on from changes nothing. -/
theorem explain_of_not_descends {arena : Arena} {s : Search} {above : List Stage} {span : Span}
    {node : Option ℕ} (hs : b.Waits arena s above) (hfound : span ∈ b.matchesIn s.rule s.span)
    (hkeys : arena.keys node = (s.rule.name, span) :: b.keysOf above)
    (hway : ∀ e, ¬b.Descends (⟨s.rule, span, e⟩ :: above)) (depth : ℕ) :
    b.explain arena node s.rule span depth = (arena, []) := by
  rw [explain_eq]
  cases he : b.explanation s.rule span with
  | none => rfl
  | some e =>
    have hguard : ¬((⟨s.rule, span, e⟩ : Stage).isOwn = false → (e.rule.name, span) ∉
        b.keysOf above) :=
      fun hguard => hway e (.inside hs.descends hs.search hfound he hguard)
    rw [Classical.not_imp, Classical.not_not] at hguard
    obtain ⟨hother, hcovered⟩ := hguard
    have hpath : arena.onPath node e.rule.name span := by
      rw [Arena.onPath_iff, hkeys]
      exact List.mem_cons_of_mem _ hcovered
    have hname : ¬(e.rule.name == s.rule.name) = true := by
      rw [Bool.not_eq_true]
      exact hother
    dsimp only
    rw [if_neg hname, if_pos hpath]

/-- What the work has come to when it has gone on with the nodes that a search found over some
spans: the arena has grown, and the new searches are those that the ways down through these nodes
lead to. -/
structure Continued (b : Builder) (s : Search) (above : List Stage) (spans : List Span)
    (arena : Arena) (next : Arena × List Search) : Prop where
  consistent : b.Consistent next.1
  grows : Grows arena next.1
  waits : ∀ s' ∈ next.2, ∃ stages, b.Waits next.1 s' stages
  leads : ∀ stage, b.Descends (stage :: above) → stage.rule = s.rule → stage.span ∈ spans →
    ∀ part ∈ b.parts stage.explanation stage.span,
      ∃ s' ∈ next.2, (s'.rule, s'.span) = part ∧ b.Waits next.1 s' (stage :: above)

/-- Explaining a node that a search has found. -/
theorem explain_continued {arena : Arena} {s : Search} {above : List Stage} {span : Span}
    {node : Option ℕ} (h : b.Consistent arena) (hs : b.Waits arena s above)
    (hfound : span ∈ b.matchesIn s.rule s.span) (hnode : ∀ p, node = some p → p < arena.nextId)
    (hkeys : arena.keys node = (s.rule.name, span) :: b.keysOf above) :
    b.Continued s above [span] arena (b.explain arena node s.rule span s.depth) := by
  by_cases hway : ∃ e, b.Descends (⟨s.rule, span, e⟩ :: above)
  · obtain ⟨e, hway⟩ := hway
    obtain ⟨arena', node', heq, hconsistent, hgrows, hkeys', hnode'⟩ :=
      explain_of_descends h hway hnode hkeys s.depth
    have hwaits : ∀ s' ∈ b.searchesOf e node' span s.depth,
        b.Waits arena' s' (⟨s.rule, span, e⟩ :: above) :=
      fun s' hs' => waits_searchesOf hway hkeys' hnode' (hs.depth ▸ hs')
    dsimp only at heq
    rw [heq]
    refine ⟨hconsistent, hgrows, fun s' hs' => ⟨_, hwaits s' hs'⟩, ?_⟩
    intro stage hstage hrule hspan part hpart
    obtain rfl := hstage.stage_eq hway hrule (List.mem_singleton.1 hspan)
    have hsearch : (⟨node', part.2, part.1, s.depth + 1⟩ : Search) ∈
        b.searchesOf e node' span s.depth := by
      rw [searchesOf_eq]
      exact List.mem_map_of_mem hpart
    exact ⟨_, hsearch, rfl, hwaits _ hsearch⟩
  · rw [not_exists] at hway
    rw [explain_of_not_descends hs hfound hkeys hway]
    refine ⟨h, .refl _, by simp, ?_⟩
    rintro ⟨rule, span', e⟩ hstage rfl hspan
    obtain rfl := List.mem_singleton.1 hspan
    exact absurd hstage (hway e)

/-- Adding the nodes that a search has found. -/
theorem addMatches_continued {arena : Arena} {s : Search} {above : List Stage}
    {spans : List Span} (h : b.Consistent arena) (hs : b.Waits arena s above)
    (hfound : ∀ span ∈ spans, span ∈ b.matchesIn s.rule s.span) :
    b.Continued s above spans arena (b.addMatches s arena spans) := by
  induction spans generalizing arena with
  | nil => exact ⟨h, .refl _, by simp [addMatches], by simp⟩
  | cons span spans ih =>
    have hspan := hfound span List.mem_cons_self
    have hpush := grows_push h.sound s.parent s.rule span
    have hconsistent := h.push hs.parent (.found hs.descends hs.search hspan hs.keys)
    have hkeys : (arena.push s.parent s.rule span).keys (some arena.nextId) =
        (s.rule.name, span) :: b.keysOf above := by
      rw [keys_push_self h.sound hs.parent, hs.keys]
    have hfirst := explain_continued hconsistent (hs.mono hpush) hspan
      (lt_nextId_push arena s.parent s.rule span) hkeys
    have hrest := ih hfirst.consistent ((hs.mono hpush).mono hfirst.grows)
      fun span hspan => hfound span (List.mem_cons_of_mem _ hspan)
    refine ⟨hrest.consistent, hpush.trans (hfirst.grows.trans hrest.grows), ?_, ?_⟩
    · intro s' hs'
      rcases List.mem_append.1 hs' with hs' | hs'
      · obtain ⟨stages, hwaits⟩ := hfirst.waits s' hs'
        exact ⟨stages, hwaits.mono hrest.grows⟩
      · exact hrest.waits s' hs'
    · intro stage hstage hrule hmem part hpart
      rcases List.mem_cons.1 hmem with hmem | hmem
      · obtain ⟨s', hs', heq, hwaits⟩ :=
          hfirst.leads stage hstage hrule (hmem ▸ List.mem_singleton_self _) part hpart
        exact ⟨s', List.mem_append_left _ hs', heq, hwaits.mono hrest.grows⟩
      · obtain ⟨s', hs', heq, hwaits⟩ := hrest.leads stage hstage hrule hmem part hpart
        exact ⟨s', List.mem_append_right _ hs', heq, hwaits⟩

theorem step_continued {arena : Arena} {s : Search} {above : List Stage} (h : b.Consistent arena)
    (hs : b.Waits arena s above) : b.Continued s above (b.found s) arena (b.step arena s) :=
  addMatches_continued h hs fun _ hspan => b.found_eq s ▸ hspan

/-! ## All states -/

theorem consistent_empty : b.Consistent {} :=
  ⟨Arena.sound_empty, fun id l hl => by simp [Arena.label?] at hl⟩

variable (b) in
/-- The start rule waits to be searched in the whole input. -/
def startSearch : Search := ⟨none, wholeSpan b.input, b.grammar.startRule, 1⟩

/-- The state that the work begins with, by what explains the whole input. -/
theorem initial_eq :
    b.initial = match b.rootStage? with
      | none => ({}, [b.startSearch])
      | some stage =>
        if stage.isOwn then
          ({}, b.searchesOf stage.explanation none stage.span 0 ++ [b.startSearch])
        else (({} : Arena).push none stage.explanation.rule stage.span,
          b.searchesOf stage.explanation (some 0) stage.span 0) := by
  unfold initial rootStage?
  split
  · rfl
  · have hexplain := b.explain_eq {} none rootRule (wholeSpan b.input) 0
    dsimp only [wholeSpan] at hexplain ⊢
    rw [hexplain]
    cases b.explanation rootRule ⟨0, byteSize b.input.toList⟩ with
    | none => rfl
    | some e =>
      have hpath : ({} : Arena).onPath none e.rule.name ⟨0, byteSize b.input.toList⟩ = false := rfl
      by_cases hown : e.rule.name == rootRule.name
      · simp [Stage.isOwn, hown, startSearch, wholeSpan]
      · simp [Stage.isOwn, hown, hpath, Arena.push, Arena.nextId]

variable (b) in
theorem initial_consistent :
    b.Consistent b.initial.1 ∧ ∀ s ∈ b.initial.2, b.Waits b.initial.1 s [] := by
  have hpart : ∀ {stage : Stage} {arena : Arena} {node : Option ℕ} {s : Search},
      b.rootStage? = some stage → arena.keys node = stage.attached →
      (∀ p, node = some p → p < arena.nextId) →
      s ∈ b.searchesOf stage.explanation node stage.span 0 → b.Waits arena s [] := by
    intro stage arena node s hroot hkeys hnode hs
    rw [searchesOf_eq] at hs
    obtain ⟨part, hpart, rfl⟩ := List.mem_map.1 hs
    refine ⟨.root, ?_, ?_, rfl, hnode⟩
    · rw [searchesAt, hroot]
      exact List.mem_append_left _ hpart
    · rw [keysOf, rootKeys, hroot]
      exact hkeys
  have hstart : b.rootKeys = [] → b.Waits {} b.startSearch [] := by
    intro hnone
    refine ⟨.root, ?_, ?_, rfl, by simp [startSearch]⟩
    · rw [searchesAt, hnone]
      exact List.mem_append_right _ List.mem_cons_self
    · rw [keysOf, hnone, startSearch, Arena.keys_none]
  rw [initial_eq]
  cases hroot : b.rootStage? with
  | none =>
    refine ⟨consistent_empty, fun s hs => ?_⟩
    obtain rfl := List.mem_singleton.1 hs
    exact hstart (by rw [rootKeys, hroot]; rfl)
  | some stage =>
    dsimp only
    split
    · rename_i hown
      have hattached : stage.attached = [] := if_pos hown
      refine ⟨consistent_empty, fun s hs => ?_⟩
      rcases List.mem_append.1 hs with hs | hs
      · exact hpart hroot (by rw [Arena.keys_none, hattached]) (by simp) hs
      · obtain rfl := List.mem_singleton.1 hs
        exact hstart (by rw [rootKeys, hroot]; exact hattached)
    · rename_i hother
      rw [Bool.not_eq_true] at hother
      have hnone : ∀ p, (none : Option ℕ) = some p → p < ({} : Arena).nextId := by simp
      refine ⟨consistent_empty.push hnone (.ofRoot hroot hother rfl rfl rfl),
        fun s hs => hpart hroot ?_ ?_ hs⟩
      · have hkeys := keys_push_self Arena.sound_empty hnone stage.explanation.rule stage.span
        rw [Arena.keys_none] at hkeys
        rw [Stage.attached, hother]
        exact hkeys
      · exact lt_nextId_push {} none _ _

variable (b) in
/-- What the root leads to waits at first. -/
theorem initial_leads :
    ∀ search ∈ b.searchesAt [], ∃ s ∈ b.initial.2, (s.rule, s.span) = search := by
  have hpart : ∀ {stage : Stage} (node : Option ℕ), ∀ part ∈ b.parts stage.explanation stage.span,
      ∃ s ∈ b.searchesOf stage.explanation node stage.span 0, (s.rule, s.span) = part := by
    intro stage node part hpart
    rw [searchesOf_eq]
    exact ⟨_, List.mem_map_of_mem hpart, rfl⟩
  have hstart : (b.startSearch.rule, b.startSearch.span) =
      (b.grammar.startRule, wholeSpan b.input) := rfl
  intro search hsearch
  rw [initial_eq]
  rw [searchesAt] at hsearch
  cases hroot : b.rootStage? with
  | none =>
    have hkeys : b.rootKeys = [] := by
      rw [rootKeys, hroot]
      rfl
    rw [hroot, hkeys] at hsearch
    obtain rfl := List.mem_singleton.1 hsearch
    exact ⟨b.startSearch, List.mem_singleton_self _, hstart⟩
  | some stage =>
    have hkeys : b.rootKeys = stage.attached := by
      rw [rootKeys, hroot]
      rfl
    unfold Stage.attached at hkeys
    dsimp only
    split
    · rename_i hown
      rw [if_pos hown] at hkeys
      rw [hroot, hkeys] at hsearch
      rcases List.mem_append.1 hsearch with hsearch | hsearch
      · obtain ⟨s, hs, heq⟩ := hpart none search hsearch
        exact ⟨s, List.mem_append_left _ hs, heq⟩
      · obtain rfl := List.mem_singleton.1 hsearch
        exact ⟨b.startSearch, List.mem_append_right _ (List.mem_singleton_self _), hstart⟩
    · rename_i hother
      rw [if_neg hother] at hkeys
      rw [hroot, hkeys] at hsearch
      rcases List.mem_append.1 hsearch with hsearch | hsearch
      · exact hpart (some 0) search hsearch
      · simp at hsearch

/-- In every state the arena is consistent, and each search that waits comes from a way down. -/
theorem consistent_stateAfter (b : Builder) (turns : ℕ) :
    b.Consistent (b.stateAfter turns).1 ∧
      ∀ s ∈ (b.stateAfter turns).2, ∃ stages, b.Waits (b.stateAfter turns).1 s stages := by
  refine @stateAfter_induction b (fun arena stack => b.Consistent arena ∧
    ∀ s ∈ stack, ∃ stages, b.Waits arena s stages) ?_ ?_ turns
  · obtain ⟨hconsistent, hwaits⟩ := b.initial_consistent
    exact ⟨hconsistent, fun s hs => ⟨[], hwaits s hs⟩⟩
  · intro arena s rest ⟨hconsistent, hwaits⟩
    obtain ⟨above, hs⟩ := hwaits s List.mem_cons_self
    have hstep := step_continued hconsistent hs
    refine ⟨hstep.consistent, fun next hmem => ?_⟩
    rcases List.mem_append.1 hmem with hmem | hmem
    · exact hstep.waits next hmem
    · obtain ⟨stages, hwait⟩ := hwaits next (List.mem_cons_of_mem _ hmem)
      exact ⟨stages, hwait.mono hstep.grows⟩

theorem grows_stateAfter (b : Builder) {turns n : ℕ} (h : turns ≤ n) :
    Grows (b.stateAfter turns).1 (b.stateAfter n).1 := by
  induction n, h using Nat.le_induction with
  | base => exact .refl _
  | succ n _ ih =>
    refine ih.trans ?_
    cases hstack : (b.stateAfter n).2 with
    | nil =>
      rw [stateAfter_of_end hstack (Nat.le_succ n)]
      exact .refl _
    | cons s rest =>
      obtain ⟨hconsistent, hwaits⟩ := consistent_stateAfter b n
      obtain ⟨above, hs⟩ := hwaits s (hstack ▸ List.mem_cons_self)
      rw [stateAfter_succ hstack]
      exact (step_continued hconsistent hs).grows

/-- In work that ends, each search that a way down leads to gets its turn. -/
theorem exists_turn_of_descends (hend : ∃ last, (b.stateAfter last).2 = []) {stages : List Stage}
    (h : b.Descends stages) : ∀ search ∈ b.searchesAt stages, ∃ turns s rest,
      (b.stateAfter turns).2 = s :: rest ∧ b.Waits (b.stateAfter turns).1 s stages ∧
        (s.rule, s.span) = search := by
  have hturn : ∀ {turns s stages}, s ∈ (b.stateAfter turns).2 →
      b.Waits (b.stateAfter turns).1 s stages → ∃ n rest, (b.stateAfter n).2 = s :: rest ∧
        b.Waits (b.stateAfter n).1 s stages := by
    intro turns s stages hs hwaits
    obtain ⟨n, rest, hle, hstack⟩ := exists_turn_of_mem hend hs
    exact ⟨n, rest, hstack, hwaits.mono (grows_stateAfter b hle)⟩
  induction h with
  | root =>
    intro search hsearch
    obtain ⟨s, hs, heq⟩ := b.initial_leads search hsearch
    obtain ⟨n, rest, hstack, hwaits⟩ := @hturn 0 s [] hs (b.initial_consistent.2 s hs)
    exact ⟨n, s, rest, hstack, hwaits, heq⟩
  | @inside stage above outer habove hsearch hfound he hguard ih =>
    intro search hpart
    obtain ⟨turns, s, rest, hstack, hs, heq⟩ := ih _ hsearch
    obtain ⟨hrule, hspan⟩ := Prod.mk.inj heq
    have hstep := step_continued (consistent_stateAfter b turns).1 hs
    have hmem : stage.span ∈ b.found s := by
      rw [found_eq, hrule, hspan]
      exact hfound
    obtain ⟨s', hs', heq', hwaits⟩ := hstep.leads stage
      (.inside habove hsearch hfound he hguard) hrule.symm hmem search hpart
    have hstate := stateAfter_succ hstack
    obtain ⟨n, rest', hstack', hwaits'⟩ := @hturn (turns + 1) s' (stage :: above)
      (by rw [hstate]; exact List.mem_append_left _ hs') (by rw [hstate]; exact hwaits)
    exact ⟨n, s', rest', hstack', hwaits', heq'⟩

end Builder

end PatternGrammar
