import PatternGrammar.Proofs.Grammar.Explanation
import PatternGrammar.Proofs.Tree.Descent
import PatternGrammar.Proofs.Tree.Traversal

/-!
# Spans of nodes and searches

Spans come from matches in a slice and from groups of an explained slice, and are shifted to where
the slice begins. All of them are ranges of the input between characters, and each lies inside the
span of the node that it leads below.

Main results:

* `Builder.span_of_descends`: what a way down leads to is searched in a range of the input within
  the span of the last node on the way.
* `Builder.build_wellFormed`: a tree that is built is well formed, and no slice is taken out of
  range on the way to it.
-/

namespace PatternGrammar

open PatternGrammar.Text (Span slice slice? byteSize wholeSpan span_of_slice? slice_eq_of_slice?
  slice?_shift slice?_whole)

/-- The span lies inside the other one. -/
def Text.Span.Within (inner outer : Span) : Prop :=
  outer.start ≤ inner.start ∧ inner.stop ≤ outer.stop

/-- The span is a range of the text between characters. -/
def Text.Span.InRange (span : Span) (text : String) : Prop := (slice? text span).isSome

theorem Text.Span.InRange.le {span : Span} {text : String} (h : span.InRange text) :
    span.start ≤ span.stop := by
  obtain ⟨t, ht⟩ := Option.isSome_iff_exists.1 h
  have := span_of_slice? ht
  omega

theorem Text.Span.Within.trans {a b c : Span} (hab : a.Within b) (hbc : b.Within c) :
    a.Within c :=
  ⟨Nat.le_trans hbc.1 hab.1, Nat.le_trans hab.2 hbc.2⟩

/-- The root covers the input, each node has the text of its span, and the span of each child is
not empty and lies inside that of its parent. -/
structure Tree.WellFormed (t : Tree) (input : String) : Prop where
  span_eq : t.span = wholeSpan input
  text_eq : t.text = input
  slice_eq : ∀ n ∈ t.nodes, slice? input n.span = some n.text
  nonempty : ∀ n ∈ t.nodes, ∀ c ∈ n.children, c.span.start < c.span.stop
  within : ∀ n ∈ t.nodes, ∀ c ∈ n.children, c.span.Within n.span

namespace Builder

variable {b : Builder}

/-- All regular expressions of the grammar were compiled. -/
def Compiled (b : Builder) : Prop := ∀ r ∈ b.grammar.rules, Grammar.CompiledFrom r

theorem inRange_whole (b : Builder) : (wholeSpan b.input).InRange b.input := by
  rw [Span.InRange, slice?_whole]
  rfl

theorem byteSize_slice {text : String} {span : Span} (h : span.InRange text) :
    span.start + byteSize (slice text span).toList = span.stop := by
  obtain ⟨u, hu⟩ := Option.isSome_iff_exists.1 h
  rw [slice_eq_of_slice? hu]
  exact (span_of_slice? hu).1

/-- A range within a slice, shifted to where the slice begins, lies inside the span of the slice. -/
theorem inRange_shift {text t u : String} {span sub : Span} (ht : slice? text span = some t)
    (hu : slice? t sub = some u) :
    (sub.shift span.start).InRange text ∧ (sub.shift span.start).Within span := by
  have hspan := span_of_slice? ht
  have hsub := span_of_slice? hu
  refine ⟨?_, ?_⟩
  · rw [Span.InRange, slice?_shift ht hu]
    rfl
  · constructor
    · rw [Span.shift]
      exact Nat.le_add_right _ _
    · show span.start + sub.stop ≤ span.stop
      omega

/-! ## Matches and groups -/

theorem inRange_of_mem_matchesIn (hc : b.Compiled) {rule : Rule} {span m : Span}
    (hspan : span.InRange b.input) (hm : m ∈ b.matchesIn rule span) :
    m.InRange b.input ∧ m.Within span ∧ m.start < m.stop := by
  obtain ⟨t, ht⟩ := Option.isSome_iff_exists.1 hspan
  unfold matchesIn found at hm
  split at hm
  · simp at hm
  · rename_i r hr
    obtain ⟨m, hmem, rfl⟩ := List.mem_map.1 hm
    obtain ⟨hmem, hne⟩ := List.mem_filter.1 hmem
    rw [slice_eq_of_slice? ht] at hmem
    have hprogram := Regex.program_of_compile (hc r (CompiledGrammar.mem_of_find? hr)).1
    obtain ⟨u, hu⟩ := Regex.exists_slice_of_mem_findAll hprogram hmem
    obtain ⟨hrange, hwithin⟩ := inRange_shift ht hu
    refine ⟨hrange, hwithin, ?_⟩
    have hlen := span_of_slice? hu
    have hne : m.start ≠ m.stop := by simpa using hne
    show span.start + m.start < span.start + m.stop
    omega

theorem group_of_mem_targets {e : Explanation} {whole group : Span} {name : String}
    (h : (name, group) ∈ targets e whole) : some group ∈ e.groups ∨ group = whole := by
  unfold targets at h
  split at h
  · obtain ⟨⟨part, group'⟩, hmem, h⟩ := List.mem_filterMap.1 h
    obtain ⟨name', -, h⟩ := Option.bind_eq_some_iff.1 h
    obtain ⟨group'', rfl, h⟩ := Option.bind_eq_some_iff.1 h
    obtain ⟨rfl, rfl⟩ := Prod.mk.inj (Option.some.inj h)
    exact .inl (List.of_mem_zip hmem).2
  · obtain ⟨⟨part, group'⟩, hmem, h⟩ := List.mem_filterMap.1 h
    obtain ⟨group'', rfl, h⟩ := Option.bind_eq_some_iff.1 h
    obtain ⟨rfl, rfl⟩ := Prod.mk.inj (Option.some.inj h)
    exact .inl (List.of_mem_zip hmem).2
  · obtain ⟨rfl, rfl⟩ := Prod.mk.inj (List.mem_singleton.1 h)
    exact .inr rfl
  · simp at h

/-- What an explanation leads to is searched inside the span that it explains. -/
theorem inRange_of_mem_parts (hc : b.Compiled) {rule : Rule} {span : Span} {e : Explanation}
    (hspan : span.InRange b.input) (he : b.explanation rule span = some e)
    {part : Rule × Span} (hpart : part ∈ b.parts e span) :
    part.2.InRange b.input ∧ part.2.Within span := by
  obtain ⟨t, ht⟩ := Option.isSome_iff_exists.1 hspan
  obtain ⟨⟨name, group⟩, htarget, hfind⟩ := List.mem_filterMap.1 hpart
  obtain ⟨r, -, rfl⟩ := Option.map_eq_some_iff.1 hfind
  have hexplain := (Option.filter_eq_some_iff.1 he).1
  rw [slice_eq_of_slice? ht] at hexplain
  have hgroup : ∃ u, slice? t group = some u := by
    rcases group_of_mem_targets htarget with hgroup | rfl
    · exact CompiledGrammar.exists_slice_of_explain hc hexplain hgroup
    · refine ⟨t, ?_⟩
      have hwhole : (⟨0, span.stop - span.start⟩ : Span) = wholeSpan t := by
        have := span_of_slice? ht
        rw [wholeSpan, show span.stop - span.start = byteSize t.toList by omega]
      rw [hwhole, slice?_whole]
  obtain ⟨u, hu⟩ := hgroup
  exact inRange_shift ht hu

/-! ## Along a way down -/

/-- The span of the last node on a way down. -/
def spanAt (b : Builder) : List Stage → Span
  | [] => wholeSpan b.input
  | stage :: _ => stage.span

theorem explanation_of_rootStage? {stage : Stage} (h : b.rootStage? = some stage) :
    stage.span = wholeSpan b.input ∧ b.input ≠ "" ∧
      b.explanation rootRule stage.span = some stage.explanation := by
  unfold rootStage? at h
  split at h
  · simp at h
  · rename_i hempty
    obtain ⟨e, he, rfl⟩ := Option.map_eq_some_iff.1 h
    exact ⟨rfl, by simpa using hempty, he⟩

theorem rule_of_rootStage? {stage : Stage} (h : b.rootStage? = some stage) :
    stage.rule = rootRule := by
  unfold rootStage? at h
  split at h
  · simp at h
  · obtain ⟨e, -, rfl⟩ := Option.map_eq_some_iff.1 h
    rfl

theorem inRange_of_mem_searchesAt (hc : b.Compiled) {stages : List Stage}
    (hdescends : b.Descends stages) (hspan : (b.spanAt stages).InRange b.input)
    {search : Rule × Span} (h : search ∈ b.searchesAt stages) :
    search.2.InRange b.input ∧ search.2.Within (b.spanAt stages) := by
  cases hdescends with
  | root =>
    rcases List.mem_append.1 h with h | h
    · cases hroot : b.rootStage? with
      | none => rw [hroot] at h; simp at h
      | some stage =>
        rw [hroot] at h
        obtain ⟨hwhole, -, he⟩ := explanation_of_rootStage? hroot
        rw [spanAt, ← hwhole] at hspan ⊢
        exact inRange_of_mem_parts hc hspan he h
    · split at h
      · obtain rfl := List.mem_singleton.1 h
        exact ⟨hspan, Nat.le_refl _, Nat.le_refl _⟩
      · simp at h
  | inside _ _ _ he _ => exact inRange_of_mem_parts hc hspan he h

/-- What a way down leads to is searched in a range of the input, within the span of the last node
on the way. -/
theorem span_of_descends (hc : b.Compiled) {stages : List Stage} (h : b.Descends stages) :
    (b.spanAt stages).InRange b.input ∧ ∀ search ∈ b.searchesAt stages,
      search.2.InRange b.input ∧ search.2.Within (b.spanAt stages) := by
  suffices hspan : (b.spanAt stages).InRange b.input from
    ⟨hspan, fun search hsearch => inRange_of_mem_searchesAt hc h hspan hsearch⟩
  induction h with
  | root => exact inRange_whole b
  | inside habove hsearch hfound _ _ ih =>
    have houter := inRange_of_mem_searchesAt hc habove ih hsearch
    exact (inRange_of_mem_matchesIn hc houter.1 hfound).1

/-- What a search finds on a way down lies within the last node on the way. -/
theorem span_of_found (hc : b.Compiled) {above : List Stage} {rule : Rule} {outer m : Span}
    (h : b.Descends above) (hsearch : (rule, outer) ∈ b.searchesAt above)
    (hm : m ∈ b.matchesIn rule outer) :
    m.InRange b.input ∧ m.Within (b.spanAt above) ∧ m.start < m.stop := by
  obtain ⟨hrange, hwithin⟩ := (span_of_descends hc h).2 _ hsearch
  obtain ⟨hm, hinner, hne⟩ := inRange_of_mem_matchesIn hc hrange hm
  exact ⟨hm, hinner.trans hwithin, hne⟩

/-! ## Nodes of the arena -/

theorem span_of_keysOf {stages : List Stage} {key : String × Span} {keys : List (String × Span)}
    (h : b.keysOf stages = key :: keys) : key.2 = b.spanAt stages := by
  have hattached : ∀ {stage : Stage} {keys keys' : List (String × Span)},
      stage.attached ++ keys = key :: keys' → (∀ k ∈ keys.head?, k.2 = stage.span) →
      key.2 = stage.span := by
    intro stage keys keys' h hkeys
    unfold Stage.attached at h
    split at h
    · rw [List.nil_append] at h
      exact hkeys key (by rw [h]; rfl)
    · obtain ⟨rfl, -⟩ := List.cons.inj h
      rfl
  cases stages with
  | nil =>
    rw [keysOf, rootKeys] at h
    cases hroot : b.rootStage? with
    | none => rw [hroot] at h; simp at h
    | some stage =>
      rw [hroot, Option.elim, ← List.append_nil stage.attached] at h
      rw [spanAt, ← (explanation_of_rootStage? hroot).1]
      exact hattached h (by simp)
  | cons stage above => exact hattached h (by rintro k ⟨⟩; rfl)

theorem inRange_of_placed (hc : b.Compiled) {arena : Arena} {l : Arena.Label}
    (h : b.Placed arena l) : l.span.InRange b.input ∧ l.span.start < l.span.stop := by
  cases h with
  | found hdescends hsearch hfound _ =>
    obtain ⟨hrange, -, hne⟩ := span_of_found hc hdescends hsearch hfound
    exact ⟨hrange, hne⟩
  | attached hdescends _ _ hspan _ =>
    cases hdescends with
    | inside habove hsearch hfound _ _ =>
      obtain ⟨hrange, -, hne⟩ := span_of_found hc habove hsearch hfound
      rw [hspan]
      exact ⟨hrange, hne⟩
  | ofRoot hroot _ _ hspan _ =>
    obtain ⟨hwhole, hinput, -⟩ := explanation_of_rootStage? hroot
    rw [hspan, hwhole]
    refine ⟨inRange_whole b, Nat.pos_of_ne_zero fun hzero => hinput ?_⟩
    rw [← String.toList_eq_nil_iff]
    exact Text.byteSize_eq_zero_iff.1 hzero

theorem within_of_placed (hc : b.Compiled) {arena : Arena} (harena : arena.Sound)
    {l l' : Arena.Label} {p : ℕ} (h : b.Placed arena l) (hp : l.parent = some p)
    (hl' : arena.label? p = some l') : l.span.Within l'.span := by
  have hway := harena.keys_some hl'
  cases h with
  | found hdescends hsearch hfound hkeys =>
    rw [hp, hway] at hkeys
    rw [show l'.span = _ from span_of_keysOf hkeys.symm]
    exact (span_of_found hc hdescends hsearch hfound).2.1
  | attached _ _ _ hspan hkeys =>
    rw [hp, hway] at hkeys
    obtain ⟨-, hspan'⟩ := Prod.mk.inj (List.cons.inj hkeys).1
    rw [hspan, hspan']
    exact ⟨Nat.le_refl _, Nat.le_refl _⟩
  | ofRoot _ _ _ _ hparent =>
    rw [hp] at hparent
    simp at hparent

/-! ## The finished tree -/

/-- All spans that are sliced in a state are ranges of the input: those of the nodes, those of the
searches, and those of the matches that running the searches explains. -/
structure SlicesInRange (b : Builder) (state : Arena × List Search) : Prop where
  nodes : ∀ id l, state.1.label? id = some l → l.span.InRange b.input
  searches : ∀ s ∈ state.2, s.span.InRange b.input
  found : ∀ s ∈ state.2, ∀ m ∈ b.found s, m.InRange b.input

theorem slicesInRange_stateAfter (hc : b.Compiled) (turns : ℕ) :
    b.SlicesInRange (b.stateAfter turns) := by
  obtain ⟨hconsistent, hwaits⟩ := consistent_stateAfter b turns
  have hsearch : ∀ s ∈ (b.stateAfter turns).2, s.span.InRange b.input := by
    intro s hs
    obtain ⟨stages, hs⟩ := hwaits s hs
    exact ((span_of_descends hc hs.descends).2 _ hs.search).1
  refine ⟨fun id l hl => (inRange_of_placed hc (hconsistent.placed id l hl)).1, hsearch, ?_⟩
  intro s hs m hm
  exact (inRange_of_mem_matchesIn hc (hsearch s hs) hm).1

theorem wellFormed_toTree (hc : b.Compiled) {arena : Arena} (h : b.Consistent arena) (root : Rule) :
    (arena.toTree root b.input).WellFormed b.input := by
  -- a child of a node of the arena is itself a node of the arena, within its parent
  have hchild : ∀ {id l}, arena.label? id = some l → ∀ c ∈ (arena.treeAt b.input id).children,
      c.span.start < c.span.stop ∧ c.span.Within (arena.treeAt b.input id).span := by
    intro id l hl c hc'
    rw [h.sound.treeAt_eq b.input hl] at hc' ⊢
    obtain ⟨child, hmem, rfl⟩ := List.mem_map.1 hc'
    obtain ⟨l', hl', hparent⟩ := Arena.exists_label_of_mem_childrenOf hmem
    rw [h.sound.treeAt_eq b.input hl']
    have hplaced := h.placed child l' hl'
    exact ⟨(inRange_of_placed hc hplaced).2, within_of_placed hc h.sound hplaced hparent hl⟩
  have hrootChild : ∀ c ∈ (arena.toTree root b.input).children,
      c.span.start < c.span.stop ∧ c.span.Within (wholeSpan b.input) := by
    intro c hc'
    rw [h.sound.toTree_eq root b.input] at hc'
    obtain ⟨child, hmem, rfl⟩ := List.mem_map.1 hc'
    obtain ⟨l', hl', -⟩ := Arena.exists_label_of_mem_childrenOf hmem
    rw [h.sound.treeAt_eq b.input hl']
    obtain ⟨hrange, hne⟩ := inRange_of_placed hc (h.placed child l' hl')
    obtain ⟨t, ht⟩ := Option.isSome_iff_exists.1 hrange
    exact ⟨hne, Nat.zero_le _, (span_of_slice? ht).2⟩
  have hall : ∀ n ∈ (arena.toTree root b.input).nodes, slice? b.input n.span = some n.text ∧
      ∀ c ∈ n.children, c.span.start < c.span.stop ∧ c.span.Within n.span := by
    intro n hn
    rcases h.sound.mem_nodes_toTree hn with rfl | ⟨id, l, hl, rfl⟩
    · exact ⟨slice?_whole b.input, hrootChild⟩
    · refine ⟨?_, hchild hl⟩
      obtain ⟨t, ht⟩ := Option.isSome_iff_exists.1 (inRange_of_placed hc (h.placed id l hl)).1
      rw [h.sound.treeAt_eq b.input hl, Tree.span, Tree.text, slice_eq_of_slice? ht, ht]
  exact ⟨rfl, rfl, fun n hn => (hall n hn).1, fun n hn c hc => ((hall n hn).2 c hc).1,
    fun n hn c hc => ((hall n hn).2 c hc).2⟩

/-- For a grammar that compiles, any input and any limit: no slice is taken out of range, turn by
turn, and a tree that is built is well formed. -/
theorem build_wellFormed {g : Grammar} {c : CompiledGrammar} (hc : g.compile = .ok c)
    (input : String) (maxDepth : ℕ) :
    (∀ turns, (Builder.mk c input maxDepth).SlicesInRange
        ((Builder.mk c input maxDepth).stateAfter turns)) ∧
      ∀ t, (Builder.mk c input maxDepth).build = .ok t → t.WellFormed input := by
  obtain ⟨order, hcompiles⟩ := Grammar.exists_order_of_compile hc
  have hcompiled : (Builder.mk c input maxDepth).Compiled := hcompiles.compiled
  refine ⟨slicesInRange_stateAfter hcompiled, fun t ht => ?_⟩
  obtain ⟨turns, -, -, rfl⟩ := build_eq_ok_iff.1 ht
  exact wellFormed_toTree hcompiled (consistent_stateAfter _ turns).1 rootRule

theorem build_wellFormed_pairs : ∃ c t, Grammar.pairs.compile = .ok c ∧
    (Builder.mk c "a=b" 512).build = .ok t ∧ t.WellFormed "a=b" := by
  have hrun : Grammar.pairs.compile.toOption.any fun c : CompiledGrammar =>
      decide ((∀ n < (3 : ℕ), (Builder.mk c "a=b" 512).Fits n) ∧
        ((Builder.mk c "a=b" 512).stateAfter 3).2.isEmpty) := by decide +kernel
  obtain ⟨c, hc, hrun⟩ := Grammar.exists_ok_of_any hrun
  obtain ⟨hfits, hend⟩ := of_decide_eq_true hrun
  have ht := build_eq_ok_iff.2 ⟨3, hfits, List.isEmpty_iff.1 hend, rfl⟩
  exact ⟨c, _, hc, ht, (build_wellFormed hc "a=b" 512).2 _ ht⟩

end Builder

end PatternGrammar
