import PatternGrammar.Proofs.Tree.Agreement

/-!
# The order of children

The matches of a search come one after another, and so do the spans that an explanation leads to, as
long as the groups that took part do. As the tree is that of the recursion, in which a node gets all
its children from one row of searches, the children of each node come one after another as well.

Main results:

* `Builder.siblings_inOrder`: children come one after another where groups do.
* `Builder.siblingsInOrder_of_literalsValid`: so they do in all trees of a grammar whose literals are
  regular expressions on their own.
-/

namespace PatternGrammar

open PatternGrammar.Text (Span slice wholeSpan span_of_slice?)
open Recursion (Failure attach descend)

/-- The first span begins and ends before the second one begins. -/
def Text.Span.Precedes (s s' : Span) : Prop := s.start ≤ s'.start ∧ s.stop ≤ s'.start

/-- The spans come one after another. -/
def InOrder (spans : List Span) : Prop := spans.Pairwise Span.Precedes

/-- The groups of an explanation that took part come one after another. -/
def Explanation.GroupsInOrder (e : Explanation) : Prop := InOrder (e.groups.filterMap id)

/-- The children of each node come one after another. -/
def Tree.SiblingsInOrder (t : Tree) : Prop :=
  ∀ n ∈ t.nodes, InOrder (n.children.map Tree.span)

/-! ## Spans -/

theorem Text.Span.Precedes.shift {s s' : Span} (h : s.Precedes s') (offset : ℕ) :
    (s.shift offset).Precedes (s'.shift offset) :=
  ⟨Nat.add_le_add_left h.1 offset, Nat.add_le_add_left h.2 offset⟩

theorem Text.Span.Precedes.within {s s' outer outer' : Span} (h : outer.Precedes outer')
    (hs : s.Within outer) (hs' : s'.Within outer') (hle : s.start ≤ s.stop) : s.Precedes s' := by
  have hstop : s.stop ≤ s'.start := Nat.le_trans hs.2 (Nat.le_trans h.2 hs'.1)
  exact ⟨Nat.le_trans hle hstop, hstop⟩

theorem InOrder.shift {spans : List Span} (h : InOrder spans) (offset : ℕ) :
    InOrder (spans.map (·.shift offset)) := by
  rw [InOrder, List.pairwise_map]
  exact h.imp fun hprecedes => hprecedes.shift offset

/-! ## Trees -/

namespace Tree

theorem siblingsInOrder_node {rule : Rule} {span : Span} {text : String} {trees : List Tree}
    (h : InOrder (trees.map Tree.span)) (htrees : ∀ t ∈ trees, t.SiblingsInOrder) :
    (Tree.node rule span text trees).SiblingsInOrder := by
  intro n hn
  rcases mem_nodes_iff.1 hn with rfl | ⟨child, hchild, hn⟩
  · exact h
  · exact htrees child hchild n hn

/-- What is known of the trees that a search in a span gives. -/
structure Arranged (span : Span) (trees : List Tree) : Prop where
  inOrder : InOrder (trees.map Tree.span)
  within : ∀ t ∈ trees, t.span.Within span ∧ t.span.start ≤ t.span.stop
  siblings : ∀ t ∈ trees, t.SiblingsInOrder

/-- What is in one of the rows lies in one of the spans and has its own children in order. -/
theorem exists_span_of_mem_flatten {spans : List Span} {rows : List (List Tree)}
    (hrows : List.Forall₂ Arranged spans rows) :
    ∀ t ∈ rows.flatten, (∃ span ∈ spans, t.span.Within span) ∧ t.SiblingsInOrder := by
  induction hrows with
  | nil => simp
  | @cons span trees spans rows hfirst _ ih =>
    intro t ht
    rw [List.flatten_cons] at ht
    rcases List.mem_append.1 ht with ht | ht
    · exact ⟨⟨span, List.mem_cons_self, (hfirst.within t ht).1⟩, hfirst.siblings t ht⟩
    · obtain ⟨⟨span', hspan', hwithin⟩, hsiblings⟩ := ih t ht
      exact ⟨⟨span', List.mem_cons_of_mem _ hspan', hwithin⟩, hsiblings⟩

/-- Rows of trees, one for each of some spans that come one after another, make one row. -/
theorem inOrder_flatten {spans : List Span} {rows : List (List Tree)}
    (hrows : List.Forall₂ Arranged spans rows) (hspans : InOrder spans) :
    InOrder (rows.flatten.map Tree.span) := by
  induction hrows with
  | nil => exact List.Pairwise.nil
  | @cons span trees spans rows hfirst hothers ih =>
    obtain ⟨hprecedes, hspans⟩ := List.pairwise_cons.1 hspans
    rw [List.flatten_cons, List.map_append, InOrder, List.pairwise_append]
    refine ⟨hfirst.inOrder, ih hspans, ?_⟩
    rintro _ hspan _ hspan'
    obtain ⟨t, ht, rfl⟩ := List.mem_map.1 hspan
    obtain ⟨t', ht', rfl⟩ := List.mem_map.1 hspan'
    obtain ⟨⟨outer, houter, hwithin'⟩, -⟩ := exists_span_of_mem_flatten hothers t' ht'
    obtain ⟨hwithin, hle⟩ := hfirst.within t ht
    exact (hprecedes outer houter).within hwithin hwithin' hle

/-- Trees of matches that come one after another. -/
theorem arranged_of_matches {span : Span} {spans : List Span} {trees : List Tree}
    (htrees : List.Forall₂ (fun m t => t.span = m ∧ t.SiblingsInOrder) spans trees)
    (hspans : InOrder spans) (hwithin : ∀ m ∈ spans, m.Within span ∧ m.start ≤ m.stop) :
    Arranged span trees := by
  have hmap : trees.map Tree.span = spans := by
    clear hspans hwithin
    induction htrees with
    | nil => rfl
    | cons hfirst _ ih => rw [List.map_cons, hfirst.1, ih]
  have hsiblings : ∀ t ∈ trees, t.SiblingsInOrder := by
    clear hspans hwithin hmap
    induction htrees with
    | nil => simp
    | cons hfirst _ ih => exact List.forall_mem_cons.2 ⟨hfirst.2, ih⟩
  exact ⟨hmap ▸ hspans, fun t ht => hwithin _ (hmap ▸ List.mem_map_of_mem ht), hsiblings⟩

end Tree

/-- What holds of all results of a function holds of the results that it gives for a row. -/
theorem forall₂_of_mapM_ok {ε α β : Type} {f : α → Except ε β} {R : α → β → Prop} {xs : List α}
    {ys : List β} (h : xs.mapM f = .ok ys) (hR : ∀ x ∈ xs, ∀ y, f x = .ok y → R x y) :
    List.Forall₂ R xs ys := by
  induction xs generalizing ys with
  | nil =>
    obtain rfl := Except.ok.inj h
    exact .nil
  | cons x xs ih =>
    obtain ⟨hx, hxs⟩ := List.forall_mem_cons.1 hR
    rw [List.mapM_cons] at h
    cases hfirst : f x with
    | error e =>
      rw [hfirst] at h
      simp [bind, Except.bind] at h
    | ok y =>
      cases hothers : xs.mapM f with
      | error e =>
        rw [hfirst, hothers] at h
        simp [bind, Except.bind] at h
      | ok ys' =>
        rw [hfirst, hothers] at h
        obtain rfl := Except.ok.inj h
        exact .cons (hx y hfirst) (ih hothers hxs)

/-! ## Searches -/

/-- The groups that go with named elements are some of those that took part. -/
theorem sublist_filterMap_zip {α : Type} (name? : α → Option String) (xs : List α)
    (groups : List (Option Span)) :
    (((xs.zip groups).filterMap fun (x, group) => do
      return (← name? x, ← group)).map Prod.snd).Sublist (groups.filterMap id) := by
  induction xs generalizing groups with
  | nil => simp
  | cons x xs ih =>
    cases groups with
    | nil => simp
    | cons group groups =>
      have hrest := ih groups
      rw [List.zip_cons_cons]
      cases group with
      | none =>
        cases hname : name? x <;> simpa [List.filterMap_cons, hname] using hrest
      | some group =>
        cases hname : name? x with
        | none => simpa [List.filterMap_cons, hname] using hrest.cons group
        | some n => simpa [List.filterMap_cons, hname] using hrest.cons_cons group

namespace Builder

variable {b : Builder}

theorem inOrder_targets {e : Explanation} (he : e.GroupsInOrder) (whole : Span) :
    InOrder ((targets e whole).map Prod.snd) := by
  unfold targets
  split
  · rename_i parts _
    exact List.Pairwise.sublist (sublist_filterMap_zip Part.ruleName? parts e.groups) he
  · rename_i alternatives _
    exact List.Pairwise.sublist (sublist_filterMap_zip some alternatives e.groups) he
  · exact List.pairwise_singleton _ _
  · exact List.Pairwise.nil

/-- Where the groups come one after another, the searches that an explanation leads to do so too. -/
theorem inOrder_parts {e : Explanation} (he : e.GroupsInOrder) (span : Span) :
    InOrder ((b.parts e span).map Prod.snd) := by
  have htargets := inOrder_targets he ⟨0, span.stop - span.start⟩
  rw [InOrder, List.pairwise_map] at htargets ⊢
  rw [parts, List.pairwise_filterMap]
  refine htargets.imp fun {target target'} hprecedes part hpart part' hpart' => ?_
  obtain ⟨r, -, rfl⟩ := Option.map_eq_some_iff.1 hpart
  obtain ⟨r', -, rfl⟩ := Option.map_eq_some_iff.1 hpart'
  exact hprecedes.shift span.start

/-- The matches of a search come one after another. -/
theorem inOrder_matchesIn (hc : b.Compiled) {rule : Rule} {span : Span} :
    InOrder (b.matchesIn rule span) := by
  unfold matchesIn found
  split
  · exact List.Pairwise.nil
  · rename_i r hr
    have hprogram := Regex.program_of_compile (hc r (CompiledGrammar.mem_of_find? hr)).1
    refine InOrder.shift (List.Pairwise.filter _ ?_) _
    have hordered := Regex.pairwise_findAll hprogram (slice b.input span)
    refine hordered.imp_of_mem fun {m m'} hm _ hle => ?_
    obtain ⟨t, ht⟩ := Regex.exists_slice_of_mem_findAll hprogram hm
    have := span_of_slice? ht
    exact ⟨by omega, hle⟩

/-- Each explanation that the work goes on with reports groups that come one after another. The ways
down are those that the work takes (`takesWays`). -/
structure GroupsInOrder (b : Builder) : Prop where
  root : ∀ stage, b.rootStage? = some stage → stage.explanation.GroupsInOrder
  inside : ∀ stage above, b.Descends (stage :: above) → stage.explanation.GroupsInOrder

/-! ## The recursion -/

/-- Searches that a way down leads to give rows of trees that are arranged in their spans. -/
def Arranges (b : Builder)
    (go : List (String × Span) → CompiledRule → Span → Except Failure (List Tree)) : Prop :=
  ∀ (above : List Stage) (r : CompiledRule) (span : Span) (trees : List Tree), b.Descends above →
    (r.rule, span) ∈ b.searchesAt above → r ∈ b.grammar.rules →
      go (b.keysOf above) r span = .ok trees → Tree.Arranged span trees

section

variable {source : String} {g : Grammar} (hparse : Grammar.parse source = .ok g)
  (hcompile : g.compile = .ok b.grammar)
  {go : List (String × Span) → CompiledRule → Span → Except Failure (List Tree)}

include hparse hcompile

/-- What an explanation leads to comes one after another. -/
theorem inOrder_descend (hgo : b.Arranges go) {above : List Stage} (habove : b.Descends above)
    {rule : Rule} {m : Span} {e : Explanation} (hm : m.InRange b.input)
    (he : b.explanation rule m = some e) (hgroups : e.GroupsInOrder)
    (hparts : ∀ part ∈ b.parts e m, part ∈ b.searchesAt above) {below : List Tree}
    (h : descend b.grammar go (b.keysOf above) e m = .ok below) :
    InOrder (below.map Tree.span) ∧ ∀ t ∈ below, t.SiblingsInOrder := by
  rw [explanation_eq] at he
  obtain ⟨jobs, hinside, hjobs, hrules⟩ := Recursion.inside_eq hparse hcompile he hm.le
  have hspans : InOrder (jobs.map Prod.snd) := by
    have hinOrder := inOrder_parts hgroups m (b := b)
    rwa [hjobs, List.map_map] at hinOrder
  rw [Recursion.descend_eq hinside] at h
  cases hrows : jobs.mapM fun job => go (b.keysOf above) job.1 job.2 with
  | error failure =>
    rw [hrows] at h
    exact nomatch h
  | ok rows =>
    rw [hrows] at h
    obtain rfl := Except.ok.inj h
    have harranged : List.Forall₂ Tree.Arranged (jobs.map Prod.snd) rows := by
      refine List.forall₂_map_left_iff.2 (forall₂_of_mapM_ok hrows fun job hjob trees htrees => ?_)
      have hpart : (job.1.rule, job.2) ∈ b.parts e m := hjobs ▸ List.mem_map_of_mem hjob
      exact hgo above job.1 job.2 trees habove (hparts _ hpart) (hrules job hjob) htrees
    exact ⟨Tree.inOrder_flatten harranged hspans,
      fun t ht => (Tree.exists_span_of_mem_flatten harranged t ht).2⟩

/-- The tree of a match. -/
theorem siblingsInOrder_attach (hordered : b.GroupsInOrder) (hgo : b.Arranges go)
    {above : List Stage} (habove : b.Descends above) {r : CompiledRule} {outer m : Span}
    (hsearch : (r.rule, outer) ∈ b.searchesAt above) (hfound : m ∈ b.matchesIn r.rule outer)
    (hm : m.InRange b.input) {t : Tree}
    (h : attach b.grammar b.input go (b.keysOf above) r m = .ok t) :
    t.span = m ∧ t.SiblingsInOrder := by
  have hleaf : (Tree.node r.rule m (slice b.input m) []).SiblingsInOrder :=
    Tree.siblingsInOrder_node List.Pairwise.nil (by simp)
  cases he : b.grammar.explain (slice b.input m) r.rule.name with
  | none =>
    rw [Recursion.attach_unexplained he] at h
    obtain rfl := Except.ok.inj h
    exact ⟨rfl, hleaf⟩
  | some e =>
    have hexplanation := (b.explanation_eq r.rule m).trans he
    -- what explains the match is the next stage of the way down, unless its rule stands further up
    have hway : ((⟨r.rule, m, e⟩ : Stage).isOwn = false → (e.rule.name, m) ∉ b.keysOf above) →
        b.Descends (⟨r.rule, m, e⟩ :: above) :=
      fun hguard => .inside habove hsearch hfound hexplanation hguard
    have hbelow : b.Descends (⟨r.rule, m, e⟩ :: above) → ∀ below,
        descend b.grammar go (b.keysOf (⟨r.rule, m, e⟩ :: above)) e m = .ok below →
          InOrder (below.map Tree.span) ∧ ∀ t ∈ below, t.SiblingsInOrder :=
      fun hway below hbelow => inOrder_descend hparse hcompile hgo hway hm hexplanation
        (hordered.inside _ _ hway) (fun _ hpart => hpart) hbelow
    rw [keysOf, Stage.attached] at hbelow
    by_cases hown : e.rule.name = r.rule.name
    · have hisOwn : (⟨r.rule, m, e⟩ : Stage).isOwn = true := beq_iff_eq.2 hown
      rw [hisOwn] at hbelow hway
      rw [Recursion.attach_own he hown] at h
      obtain ⟨below, hdescend, rfl⟩ := exists_ok_of_map h
      obtain ⟨hinOrder, hsiblings⟩ := hbelow (hway (by simp)) below hdescend
      exact ⟨rfl, Tree.siblingsInOrder_node hinOrder hsiblings⟩
    · have hisOwn : (⟨r.rule, m, e⟩ : Stage).isOwn = false := beq_eq_false_iff_ne.2 hown
      rw [hisOwn] at hbelow hway
      by_cases hpath : (e.rule.name, m) ∈ (r.rule.name, m) :: b.keysOf above
      · rw [Recursion.attach_covered he hown hpath] at h
        obtain rfl := Except.ok.inj h
        exact ⟨rfl, hleaf⟩
      · rw [Recursion.attach_other he hown hpath] at h
        obtain ⟨below, hdescend, rfl⟩ := exists_ok_of_map h
        have hnew : (e.rule.name, m) ∉ b.keysOf above := fun hmem =>
          hpath (List.mem_cons_of_mem _ hmem)
        obtain ⟨hinOrder, hsiblings⟩ := hbelow (hway fun _ => hnew) below hdescend
        have hchild : (Tree.node e.rule m (slice b.input m) below).SiblingsInOrder :=
          Tree.siblingsInOrder_node hinOrder hsiblings
        refine ⟨rfl, Tree.siblingsInOrder_node (List.pairwise_singleton _ _) ?_⟩
        simpa using hchild

/-- Searching gives trees that are arranged in the span. -/
theorem arranges_search (hordered : b.GroupsInOrder) (depth : ℕ) :
    b.Arranges fun path r span =>
      Recursion.search b.grammar b.input b.maxDepth depth path r span := by
  obtain ⟨order, hc⟩ := Grammar.exists_order_of_compile hcompile
  -- by the number of levels that are left; the way down grows by one stage for each of them
  induction hleft : b.maxDepth + 1 - depth using Nat.strongRecOn generalizing depth with
  | ind left ih =>
    intro above r span trees habove hsearch hr h
    dsimp only at h
    rw [Recursion.search] at h
    by_cases hdeep : b.maxDepth < depth
    · rw [dif_pos hdeep] at h
      cases h
    · rw [dif_neg hdeep] at h
      have hgo := ih (b.maxDepth + 1 - (depth + 1)) (by omega) (depth + 1) rfl
      have hspan := ((span_of_descends hc.compiled habove).2 _ hsearch).1
      have hfound : b.matchesIn r.rule span = Recursion.hits b.input r span :=
        found_eq_hits hc hr none span 0
      have hrange : ∀ m ∈ b.matchesIn r.rule span,
          m.InRange b.input ∧ m.Within span ∧ m.start < m.stop :=
        fun m hm => inRange_of_mem_matchesIn hc.compiled hspan hm
      rw [← hfound] at h
      refine Tree.arranged_of_matches (forall₂_of_mapM_ok h fun m hm t ht => ?_)
        (inOrder_matchesIn hc.compiled) fun m hm => ?_
      · exact siblingsInOrder_attach hparse hcompile hordered hgo habove hsearch hm
          (hrange m hm).1 ht
      · obtain ⟨-, hwithin, hne⟩ := hrange m hm
        exact ⟨hwithin, Nat.le_of_lt hne⟩

/-- The children of the root. -/
theorem inOrder_topLevel (hordered : b.GroupsInOrder) {trees : List Tree}
    (h : Recursion.topLevel b.grammar b.input b.maxDepth = .ok trees) :
    InOrder (trees.map Tree.span) ∧ ∀ t ∈ trees, t.SiblingsInOrder := by
  have hgo := arranges_search hparse hcompile hordered 1
  have hroot := b.rootStage?_eq
  unfold Recursion.topLevel at h
  dsimp only at h
  cases he : (if b.input = "" then none else b.grammar.explain b.input "") with
  | none =>
    rw [he, Option.map_none] at hroot
    rw [he] at h
    have hkeys : b.keysOf [] = [] := by rw [keysOf, rootKeys, hroot, Option.elim]
    have hsearch : (b.grammar.first.rule, wholeSpan b.input) ∈ b.searchesAt [] := by
      rw [searchesAt, hroot, rootKeys, hroot]
      exact List.mem_singleton_self _
    have harranged := hgo [] b.grammar.first (wholeSpan b.input) trees .root hsearch
      List.mem_cons_self (by rw [hkeys]; exact h)
    exact ⟨harranged.inOrder, harranged.siblings⟩
  | some e =>
    rw [he, Option.map_some] at hroot
    rw [he] at h
    obtain ⟨below, hdescend, rfl⟩ := exists_ok_of_map h
    have hother := rootNamed_of_parse hparse hcompile b.maxDepth _ hroot
    have hkeys : b.keysOf [] = [(e.rule.name, wholeSpan b.input)] := by
      rw [keysOf, rootKeys, hroot, Option.elim, Stage.attached, hother]
      rfl
    obtain ⟨-, -, hexplanation⟩ := explanation_of_rootStage? hroot
    have hparts : ∀ part ∈ b.parts e (wholeSpan b.input), part ∈ b.searchesAt [] := by
      intro part hpart
      rw [searchesAt, hroot]
      exact List.mem_append_left _ hpart
    obtain ⟨hinOrder, hsiblings⟩ := inOrder_descend hparse hcompile hgo .root (inRange_whole b)
      hexplanation (hordered.root _ hroot) hparts (by rw [hkeys]; exact hdescend)
    refine ⟨List.pairwise_singleton _ _, ?_⟩
    simpa using Tree.siblingsInOrder_node hinOrder hsiblings

theorem siblingsInOrder_of_build (hordered : b.GroupsInOrder) {t : Tree} (h : b.build = .ok t) :
    t.SiblingsInOrder := by
  have hagree := build_eq_recursion hparse hcompile
  rw [h] at hagree
  obtain ⟨trees, htop, rfl⟩ := exists_ok_of_map hagree
  obtain ⟨hinOrder, hsiblings⟩ := inOrder_topLevel hparse hcompile hordered htop
  exact Tree.siblingsInOrder_node hinOrder hsiblings

end

end Builder

/-! ## Groups that come one after another -/

theorem inOrder_of_adjoin {i j : ℕ} {spans : List Span} (h : Adjoin i spans j)
    (hle : ∀ s ∈ spans, s.start ≤ s.stop) : (∀ s ∈ spans, i ≤ s.start) ∧ InOrder spans := by
  induction spans generalizing i with
  | nil => exact ⟨by simp, List.Pairwise.nil⟩
  | cons s spans ih =>
    obtain ⟨rfl, hrest⟩ := h
    obtain ⟨hs, hspans⟩ := List.forall_mem_cons.1 hle
    obtain ⟨hlater, hinOrder⟩ := ih hrest hspans
    refine ⟨List.forall_mem_cons.2 ⟨Nat.le_refl _, fun s' hs' => ?_⟩, List.pairwise_cons.2
      ⟨fun s' hs' => ⟨?_, hlater s' hs'⟩, hinOrder⟩⟩
    · exact Nat.le_trans hs (hlater s' hs')
    · exact Nat.le_trans hs (hlater s' hs')

/-- Where all literals can be compiled on their own, the groups of each explanation come one after
another. -/
theorem groupsInOrder_of_valid {source text exclude : String} {g : Grammar} {c : CompiledGrammar}
    {e : Explanation} (hparse : Grammar.parse source = .ok g) (hcompile : g.compile = .ok c)
    (h : c.explain text exclude = some e)
    (hvalid : ∀ part ∈ e.rule.description.components, part.Valid) : e.GroupsInOrder := by
  obtain ⟨order, hc⟩ := Grammar.exists_order_of_compile hcompile
  unfold Explanation.GroupsInOrder
  cases hdescription : e.rule.description with
  | composition parts =>
    rw [hdescription, Description.components] at hvalid
    obtain ⟨ranges, htiles, -, hgroups⟩ :=
      CompiledGrammar.tiles_of_explain hparse hcompile h hdescription hvalid
    obtain ⟨-, hadjoin, -⟩ := adjoin_of_tiles htiles (Nat.le_refl _)
    have hslice : ∀ s ∈ ranges.map (Regex.byteSpan (Regex.offsets text.toList)),
        s.start ≤ s.stop := by
      intro s hs
      obtain ⟨u, hu⟩ := CompiledGrammar.exists_slice_of_explain hc.compiled h
        (hgroups ▸ List.mem_map_of_mem hs)
      have := span_of_slice? hu
      omega
    rw [hgroups, List.filterMap_map]
    simpa using (inOrder_of_adjoin hadjoin hslice).2
  | choice alternatives =>
    obtain ⟨front, back, -, hgroups⟩ :=
      CompiledGrammar.exists_taken hparse hcompile h hdescription
    rw [hgroups]
    simp [InOrder]
  | repetition rule min max =>
    have hlength : e.groups.length ≤ 1 := by
      rw [CompiledGrammar.length_groups_of_explain h, hdescription, Description.groupCount]
      split <;> simp [Description.components]
    have hone := Nat.le_trans (List.length_filterMap_le id e.groups) hlength
    generalize e.groups.filterMap id = spans at hone ⊢
    cases spans with
    | nil => exact List.Pairwise.nil
    | cons s spans =>
      obtain rfl : spans = [] := List.eq_nil_of_length_eq_zero (by simpa using hone)
      exact List.pairwise_singleton _ s
  | literal pattern =>
    obtain ⟨r, -, hrule, -, hliteral, -⟩ := CompiledGrammar.exists_rule_of_explain h
    rw [hdescription, Description.isLiteral] at hliteral
    simp at hliteral

namespace Builder

variable {source : String} {g : Grammar} {c : CompiledGrammar}

theorem groupsInOrder_of_literalsValid {b : Builder} (hparse : Grammar.parse source = .ok g)
    (hcompile : g.compile = .ok b.grammar) (hvalid : g.LiteralsValid) : b.GroupsInOrder := by
  obtain ⟨order, hc⟩ := Grammar.exists_order_of_compile hcompile
  have hgroups : ∀ {rule : Rule} {span : Span} {e : Explanation},
      b.explanation rule span = some e → e.GroupsInOrder := by
    intro rule span e he
    obtain ⟨r, hr, hrule⟩ := exists_rule_of_explanation he
    rw [explanation_eq] at he
    refine groupsInOrder_of_valid hparse hcompile he ?_
    rw [← hrule]
    exact hvalid r.rule (hc.rule_mem hr)
  refine ⟨fun stage hstage => ?_, fun stage above hway => ?_⟩
  · obtain ⟨-, -, he⟩ := explanation_of_rootStage? hstage
    exact hgroups he
  · obtain ⟨-, -, he, -⟩ := descends_cons_iff.1 hway
    exact hgroups he

/-- For a grammar that is read from a source and compiles, any input and any limit: if each
explanation that the work goes on with reports its groups one after another, the children of each
node of the tree that is built come one after another. -/
theorem siblings_inOrder (hparse : Grammar.parse source = .ok g) (hcompile : g.compile = .ok c)
    (input : String) (maxDepth : ℕ) (hordered : (Builder.mk c input maxDepth).GroupsInOrder) :
    ∀ t, (Builder.mk c input maxDepth).build = .ok t → ∀ n ∈ t.nodes,
      InOrder (n.children.map Tree.span) :=
  fun _ ht => siblingsInOrder_of_build (b := Builder.mk c input maxDepth) hparse hcompile hordered ht

theorem siblings_inOrder_pairs : ∃ c t,
    Grammar.parse Grammar.pairs.text = .ok Grammar.pairs ∧ Grammar.pairs.compile = .ok c ∧
    (Builder.mk c "a=b" 19).GroupsInOrder ∧ (Builder.mk c "a=b" 19).build = .ok t ∧
    ∀ n ∈ t.nodes, InOrder (n.children.map Tree.span) := by
  have hparse : Grammar.parse Grammar.pairs.text = .ok Grammar.pairs := by decide +kernel
  have hvalid : Grammar.pairs.LiteralsValid := by decide +kernel
  obtain ⟨c, hc⟩ := Grammar.exists_compile_pairs
  obtain ⟨order, hcompiles⟩ := Grammar.exists_order_of_compile hc
  have hordered : (Builder.mk c "a=b" 19).GroupsInOrder :=
    groupsInOrder_of_literalsValid (b := Builder.mk c "a=b" 19) hparse hc hvalid
  have hlimit : depthBound Grammar.pairs "a=b" ≤ 19 := by decide
  obtain ⟨t, ht⟩ := exists_build_eq_ok
    (fits_of_depthBound_le (b := Builder.mk c "a=b" 19) hcompiles hlimit)
  exact ⟨c, t, hparse, hc, hordered, ht, siblings_inOrder hparse hc "a=b" 19 hordered t ht⟩

/-- Where all literals of the grammar can be compiled on their own, the children of each node come
one after another, whatever the input. -/
theorem siblingsInOrder_of_literalsValid (hparse : Grammar.parse source = .ok g)
    (hcompile : g.compile = .ok c) (hvalid : g.LiteralsValid) (input : String) (maxDepth : ℕ)
    {t : Tree} (ht : (Builder.mk c input maxDepth).build = .ok t) : t.SiblingsInOrder :=
  siblingsInOrder_of_build (b := Builder.mk c input maxDepth) hparse hcompile
    (groupsInOrder_of_literalsValid hparse hcompile hvalid) ht

end Builder

end PatternGrammar
