import PatternGrammar.Proofs.Tree.Siblings

/-!
# Why a node stands in a tree

There are two ways for a node to come into a tree. A search has found it, which looked for its rule
in a part of the text of the node above it, or it explains the text of the node above it as a whole
(`Builder.Found`, `Builder.Explained`). The work goes on inside a node by an explanation of its
text, whose rule is that of the node, and the children of the node are what the searches inside the
explanation find, one row for each of them (`Builder.Opened.exists_rows`).

Main results:

* `Builder.foundAs_of_found`, `Builder.opened_of_explained`: what is known of such nodes.
* `Builder.found_or_explained`: there are no others.
-/

namespace PatternGrammar

open PatternGrammar.Text (Span slice wholeSpan)
open Recursion (Failure attach descend hits inside)

namespace Tree

/-- The rule of a node, by name, and its span. -/
def key (n : Tree) : String × Span := (n.ruleName, n.span)

/-- The node stands below the root of the tree. The nodes between it and the root are `above`, the
nearest one first. -/
inductive Below (t : Tree) : Tree → List Tree → Prop
  | top {n : Tree} (child : n ∈ t.children) : Below t n []
  | child {p n : Tree} {above : List Tree} (parent : Below t p above) (child : n ∈ p.children) :
    Below t n (p :: above)

theorem Below.lift {t c n : Tree} {above : List Tree} (hc : c ∈ t.children) (h : c.Below n above) :
    t.Below n (above ++ [c]) := by
  induction h with
  | top child => exact .child (.top hc) child
  | child _ child ih => exact .child ih child

/-- The nodes of a tree are the tree itself and the nodes below. -/
theorem eq_or_below_of_mem_nodes {t n : Tree} (h : n ∈ t.nodes) :
    n = t ∨ ∃ above, t.Below n above := by
  induction hsize : t.size using Nat.strongRecOn generalizing t with
  | ind size ih =>
    rcases mem_nodes_iff.1 h with rfl | ⟨c, hc, hn⟩
    · exact .inl rfl
    · have hlt : c.size < size := by
        obtain ⟨front, back, hsplit⟩ := List.append_of_mem hc
        rw [← hsize, ← sizes_children t, hsplit, sizes_append, sizes]
        omega
      rcases ih c.size hlt hn rfl with rfl | ⟨above, habove⟩
      · exact .inr ⟨[], .top hc⟩
      · exact .inr ⟨above ++ [c], habove.lift hc⟩

end Tree

theorem forall₂_comp {α β γ : Type} {R : α → β → Prop} {S : β → γ → Prop} {as : List α}
    {bs : List β} {cs : List γ} (hR : List.Forall₂ R as bs) (hS : List.Forall₂ S bs cs) :
    List.Forall₂ (fun a c => ∃ b, R a b ∧ S b c) as cs := by
  induction hR generalizing cs with
  | nil =>
    cases hS
    exact .nil
  | cons hab _ ih =>
    cases hS with
    | cons hbc hS => exact .cons ⟨_, hab, hbc⟩ (ih hS)

theorem exists_mem_of_forall₂ {α β : Type} {R : α → β → Prop} {as : List α} {bs : List β}
    (h : List.Forall₂ R as bs) {b : β} (hb : b ∈ bs) : ∃ a ∈ as, R a b := by
  induction h with
  | nil => simp at hb
  | cons hab _ ih =>
    rcases List.mem_cons.1 hb with rfl | hb
    · exact ⟨_, List.mem_cons_self, hab⟩
    · obtain ⟨a, ha, hR⟩ := ih hb
      exact ⟨a, List.mem_cons_of_mem _ ha, hR⟩

/-- The explanation is one of the text of the node, and the node carries its rule. -/
structure ExplainedBy (c : CompiledGrammar) (n : Tree) (e : Explanation) : Prop where
  rule_eq : n.rule = e.rule
  explains : ∃ exclude, c.explain n.text exclude = some e

namespace Builder

variable {b : Builder} {t n p : Tree} {e : Explanation} {path : List (String × Span)}

/-! ## Nodes of the recursion -/

/-- Searching on a level. -/
def searching (b : Builder) (depth : ℕ) :
    List (String × Span) → CompiledRule → Span → Except Failure (List Tree) :=
  fun path r span => Recursion.search b.grammar b.input b.maxDepth depth path r span

/-- The recursion has put the node below those of the path as a match of a rule. -/
structure FoundAs (b : Builder) (path : List (String × Span)) (n : Tree) : Prop where
  inRange : n.span.InRange b.input
  nonempty : n.span.start < n.span.stop
  made : ∃ r ∈ b.grammar.rules, ∃ depth,
    attach b.grammar b.input (b.searching depth) path r n.span = .ok n

/-- The recursion has gone on inside the node, which stands below those of the path, by the
explanation. -/
structure Opened (b : Builder) (path : List (String × Span)) (n : Tree) (e : Explanation) :
    Prop where
  inRange : n.span.InRange b.input
  nonempty : n.span.start < n.span.stop
  text_eq : n.text = slice b.input n.span
  rule_eq : n.rule = e.rule
  explained : ∃ rule, b.explanation rule n.span = some e
  made : ∃ depth, descend b.grammar (b.searching depth) (n.key :: path) e n.span = .ok n.children

theorem Opened.explainedBy (h : b.Opened path n e) : ExplainedBy b.grammar n e := by
  obtain ⟨rule, he⟩ := h.explained
  rw [explanation_eq, ← h.text_eq] at he
  exact ⟨h.rule_eq, rule.name, he⟩

/-- The nodes are the matches of the rule in the span, below the nodes of the path. -/
def FoundRow (b : Builder) (path : List (String × Span)) (r : CompiledRule) (span : Span)
    (row : List Tree) : Prop :=
  List.Forall₂ (fun m n => b.FoundAs path n ∧ n.rule = r.rule ∧ n.span = m)
    (hits b.input r span) row

theorem eq_of_attach {go : List (String × Span) → CompiledRule → Span → Except Failure (List Tree)}
    {r : CompiledRule} {m : Span} (h : attach b.grammar b.input go path r m = .ok n) :
    n.rule = r.rule ∧ n.span = m ∧ n.text = slice b.input m := by
  unfold attach at h
  dsimp only at h
  split at h
  · obtain rfl := Except.ok.inj h
    exact ⟨rfl, rfl, rfl⟩
  · split at h
    · obtain ⟨below, -, rfl⟩ := exists_ok_of_map h
      exact ⟨rfl, rfl, rfl⟩
    · split at h
      · obtain rfl := Except.ok.inj h
        exact ⟨rfl, rfl, rfl⟩
      · obtain ⟨below, -, rfl⟩ := exists_ok_of_map h
        exact ⟨rfl, rfl, rfl⟩

theorem FoundRow.of_mem {r : CompiledRule} {span : Span} {row : List Tree}
    (h : b.FoundRow path r span row) (hn : n ∈ row) : b.FoundAs path n ∧ n.rule = r.rule ∧
      n.span ∈ hits b.input r span := by
  obtain ⟨m, hm, hfound, hrule, rfl⟩ := exists_mem_of_forall₂ h hn
  exact ⟨hfound, hrule, hm⟩

theorem FoundRow.map_span {r : CompiledRule} {span : Span} {row : List Tree}
    (h : b.FoundRow path r span row) : row.map Tree.span = hits b.input r span := by
  rw [← List.forall₂_eq_eq_eq, List.forall₂_map_left_iff]
  exact h.flip.imp fun _ _ hn => hn.2.2

theorem find?_of_lookUp {c : CompiledGrammar} {name : String} {r : CompiledRule}
    (h : Recursion.lookUp c name = .ok r) : c.find? name = some r := by
  unfold Recursion.lookUp at h
  split at h
  · rename_i hr
    rw [hr, Except.ok.inj h]
  · exact nomatch h

/-- A match that nothing explains has no children. -/
theorem FoundAs.children_eq_nil (h : b.FoundAs path n) (he : b.explanation n.rule n.span = none) :
    n.children = [] := by
  obtain ⟨r, -, depth, hmade⟩ := h.made
  rw [explanation_eq, (eq_of_attach hmade).1] at he
  rw [Recursion.attach_unexplained he] at hmade
  rw [← Except.ok.inj hmade]
  rfl

/-- Inside a match that another rule explains the work goes on in a node of that rule, unless there
is one already for the same span further up. -/
theorem FoundAs.covered_or_opened (h : b.FoundAs path n)
    (he : b.explanation n.rule n.span = some e) (hother : e.rule.name ≠ n.ruleName) :
    (n.children = [] ∧ (e.rule.name, n.span) ∈ n.key :: path) ∨
      ∃ child, n.children = [child] ∧ child.span = n.span ∧ child.key ∉ n.key :: path ∧
        b.Opened (n.key :: path) child e := by
  obtain ⟨r, -, depth, hmade⟩ := h.made
  obtain ⟨hrule, -, -⟩ := eq_of_attach hmade
  have hexplain := he
  rw [explanation_eq, hrule] at hexplain
  rw [Tree.ruleName, hrule] at hother
  have hkey : n.key = (r.rule.name, n.span) := by rw [Tree.key, Tree.ruleName, hrule]
  rw [hkey]
  by_cases hcovered : (e.rule.name, n.span) ∈ (r.rule.name, n.span) :: path
  · rw [Recursion.attach_covered hexplain hother hcovered] at hmade
    refine .inl ⟨?_, hcovered⟩
    rw [← Except.ok.inj hmade]
    rfl
  · rw [Recursion.attach_other hexplain hother hcovered] at hmade
    obtain ⟨below, hdescend, hnode⟩ := exists_ok_of_map hmade
    refine .inr ⟨.node e.rule n.span (slice b.input n.span) below, by rw [← hnode]; rfl, rfl,
      hcovered, h.inRange, h.nonempty, rfl, rfl, ⟨n.rule, he⟩, depth, hdescend⟩

section

variable {source : String} {g : Grammar} (hparse : Grammar.parse source = .ok g)
  (hcompile : g.compile = .ok b.grammar)

include hcompile

/-- A search gives the matches of its rule. -/
theorem foundRow_of_search {depth : ℕ} {r : CompiledRule} (hr : r ∈ b.grammar.rules) {span : Span}
    (hspan : span.InRange b.input) {row : List Tree} (h : b.searching depth path r span = .ok row) :
    b.FoundRow path r span row := by
  obtain ⟨order, hc⟩ := Grammar.exists_order_of_compile hcompile
  rw [searching, Recursion.search] at h
  by_cases hdeep : b.maxDepth < depth
  · rw [dif_pos hdeep] at h
    cases h
  · rw [dif_neg hdeep] at h
    refine forall₂_of_mapM_ok h fun m hm n hn => ?_
    have hfound : m ∈ b.matchesIn r.rule span := by
      rw [matchesIn, found_eq_hits hc hr]
      exact hm
    obtain ⟨hrange, -, hne⟩ := inRange_of_mem_matchesIn hc.compiled hspan hfound
    obtain ⟨hrule, rfl, -⟩ := eq_of_attach hn
    exact ⟨⟨hrange, hne, r, hr, depth + 1, hn⟩, hrule, rfl⟩

/-- The work goes on inside a match that its own rule explains. -/
theorem FoundAs.opened (h : b.FoundAs path n) (he : b.explanation n.rule n.span = some e)
    (hown : e.rule.name = n.ruleName) : b.Opened path n e := by
  obtain ⟨order, hc⟩ := Grammar.exists_order_of_compile hcompile
  obtain ⟨r, hr, depth, hmade⟩ := h.made
  obtain ⟨hrule, -, htext⟩ := eq_of_attach hmade
  have hexplain := he
  rw [explanation_eq, hrule] at hexplain
  rw [Tree.ruleName, hrule] at hown
  obtain ⟨r', hr', hrule'⟩ := exists_rule_of_explanation he
  have hsame : r = r' := by
    have hfind := hc.find?_of_mem hr'
    rw [hrule', hown] at hfind
    exact Option.some.inj ((hc.find?_of_mem hr).symm.trans hfind)
  refine ⟨h.inRange, h.nonempty, htext, by rw [hrule, hsame, hrule'], ⟨n.rule, he⟩, depth, ?_⟩
  rw [Recursion.attach_own hexplain hown] at hmade
  obtain ⟨below, hdescend, hnode⟩ := exists_ok_of_map hmade
  rw [Tree.key, Tree.ruleName, hrule, hdescend, ← hnode]
  rfl

include hparse

/-- The children of a node that the work went on in are the matches of what the explanation leads
to, row by row. -/
theorem Opened.exists_rows (h : b.Opened path n e) :
    ∃ rows, n.children = rows.flatten ∧
      List.Forall₂ (fun (target : String × Span) row => ∃ r, b.grammar.find? target.1 = some r ∧
          (target.2.shift n.span.start).InRange b.input ∧
            b.FoundRow (n.key :: path) r (target.2.shift n.span.start) row)
        (targets e ⟨0, n.span.stop - n.span.start⟩) rows := by
  obtain ⟨order, hc⟩ := Grammar.exists_order_of_compile hcompile
  obtain ⟨rule, he⟩ := h.explained
  obtain ⟨depth, hmade⟩ := h.made
  have hexplain := he
  rw [explanation_eq] at hexplain
  have hcomponents := Recursion.components_eq hparse hcompile hexplain h.inRange.le
  unfold descend inside at hmade
  rw [hcomponents] at hmade
  obtain ⟨jobs, hjobs, hmade⟩ := Regex.bind_eq_ok.1 hmade
  obtain ⟨rows, hrows, hmade⟩ := Regex.bind_eq_ok.1 hmade
  have hlookUps : List.Forall₂ (fun (target : String × Span) (job : CompiledRule × Span) =>
      b.grammar.find? target.1 = some job.1 ∧ job.2 = target.2.shift n.span.start ∧
        target ∈ targets e ⟨0, n.span.stop - n.span.start⟩)
      (targets e ⟨0, n.span.stop - n.span.start⟩) jobs := by
    have hjobs := List.forall₂_map_left_iff.1 (forall₂_of_mapM_ok hjobs fun _ _ _ hjob => hjob)
    refine Regex.forall₂_imp_mem hjobs fun target htarget job hjob => ?_
    obtain ⟨r, hr, hjob⟩ := Regex.bind_eq_ok.1 hjob
    obtain rfl := Except.ok.inj hjob
    exact ⟨find?_of_lookUp hr, rfl, htarget⟩
  have hsearches : List.Forall₂ (fun (job : CompiledRule × Span) row =>
      b.searching depth (n.key :: path) job.1 job.2 = .ok row) jobs rows :=
    forall₂_of_mapM_ok hrows fun _ _ _ hrow => hrow
  refine ⟨rows, (Except.ok.inj hmade).symm, (forall₂_comp hlookUps hsearches).imp ?_⟩
  rintro ⟨name, group⟩ row ⟨⟨r, span⟩, ⟨hfind, rfl, htarget⟩, hrow⟩
  have hpart : (r.rule, group.shift n.span.start) ∈ b.parts e n.span :=
    List.mem_filterMap.2 ⟨(name, group), htarget, by simp only [hfind, Option.map_some]⟩
  have hrange := (inRange_of_mem_parts hc.compiled h.inRange he hpart).1
  exact ⟨r, hfind, hrange,
    foundRow_of_search hcompile (CompiledGrammar.mem_of_find? hfind) hrange hrow⟩

/-- The root covers the input. Its children are the matches of the start rule, or one node that
explains the input. -/
theorem exists_top (h : b.build = .ok t) :
    t.rule = rootRule ∧ t.span = wholeSpan b.input ∧
      ((b.rootStage? = none ∧ b.FoundRow [] b.grammar.first (wholeSpan b.input) t.children) ∨
        ∃ stage child, b.rootStage? = some stage ∧ t.children = [child] ∧
          child.span = wholeSpan b.input ∧ b.Opened [] child stage.explanation) := by
  have hagree := build_eq_recursion hparse hcompile
  rw [h] at hagree
  obtain ⟨trees, htop, rfl⟩ := exists_ok_of_map hagree
  refine ⟨rfl, rfl, ?_⟩
  have hroot := b.rootStage?_eq
  unfold Recursion.topLevel at htop
  dsimp only at htop
  cases he : (if b.input = "" then none else b.grammar.explain b.input "") with
  | none =>
    rw [he, Option.map_none] at hroot
    rw [he] at htop
    exact .inl ⟨hroot, foundRow_of_search hcompile List.mem_cons_self (inRange_whole b) htop⟩
  | some e =>
    rw [he, Option.map_some] at hroot
    rw [he] at htop
    obtain ⟨below, hdescend, rfl⟩ := exists_ok_of_map htop
    obtain ⟨-, hinput, hexplanation⟩ := explanation_of_rootStage? hroot
    have htext : b.input = slice b.input (wholeSpan b.input) :=
      (Text.slice_eq_of_slice? (Text.slice?_whole b.input)).symm
    have hnonempty : 0 < Text.byteSize b.input.toList := by
      rw [Nat.pos_iff_ne_zero]
      exact fun hzero => hinput (String.toList_eq_nil_iff.1 (Text.byteSize_eq_zero_iff.1 hzero))
    exact .inr ⟨_, _, hroot, rfl, rfl, inRange_whole b, hnonempty, htext, rfl, ⟨_, hexplanation⟩,
      1, hdescend⟩

end

/-! ## Nodes of a tree -/

mutual

/-- A search has found the node, below the nodes `above`: one for the start rule in the whole input,
which nothing explains, or one inside of a node that the work went on in. -/
inductive Found (b : Builder) (t : Tree) : Tree → List Tree → Prop
  | top {n : Tree} (root : b.rootStage? = none) (child : n ∈ t.children) : Found b t n []
  | inside {p n : Tree} {above : List Tree} {e : Explanation} (parent : Explained b t p above e)
    (child : n ∈ p.children) : Found b t n (p :: above)

/-- The work went on inside the node, below the nodes `above`, by the explanation: the node explains
the whole input, it was found and its own rule explains it, or it explains the match above it, which
is one of another rule. -/
inductive Explained (b : Builder) (t : Tree) : Tree → List Tree → Explanation → Prop
  | whole {n : Tree} {stage : Stage} (root : b.rootStage? = some stage) (child : n ∈ t.children) :
    Explained b t n [] stage.explanation
  | own {n : Tree} {above : List Tree} {e : Explanation} (found : Found b t n above)
    (explanation : b.explanation n.rule n.span = some e) (same : e.rule.name = n.ruleName) :
    Explained b t n above e
  | other {p n : Tree} {above : List Tree} {e : Explanation} (found : Found b t p above)
    (explanation : b.explanation p.rule p.span = some e) (other : e.rule.name ≠ p.ruleName)
    (child : n ∈ p.children) : Explained b t n (p :: above) e

end

section

variable {source : String} {g : Grammar} {above : List Tree}

variable (hparse : Grammar.parse source = .ok g) (hcompile : g.compile = .ok b.grammar)

include hparse hcompile

/-- What stands below a node that the work went on in is a match of what the explanation leads
to. -/
theorem Opened.foundAs (h : b.Opened path n e) {c : Tree} (hc : c ∈ n.children) :
    b.FoundAs (n.key :: path) c ∧ ∃ target ∈ targets e ⟨0, n.span.stop - n.span.start⟩,
      ∃ r, b.grammar.find? target.1 = some r ∧ c.rule = r.rule := by
  obtain ⟨rows, hrows, htargets⟩ := h.exists_rows hparse hcompile
  rw [hrows] at hc
  obtain ⟨row, hrow, hc⟩ := List.mem_flatten.1 hc
  obtain ⟨target, htarget, r, hr, -, hfound⟩ := exists_mem_of_forall₂ htargets hrow
  obtain ⟨hfoundAs, hrule, -⟩ := hfound.of_mem hc
  exact ⟨hfoundAs, target, htarget, r, hr, hrule⟩

mutual

theorem foundAs_of_found (hbuild : b.build = .ok t) :
    ∀ {n above}, b.Found t n above → b.FoundAs (above.map Tree.key) n
  | _, _, .top root child => by
    obtain ⟨-, -, ⟨-, hrow⟩ | ⟨stage, _, hstage, -⟩⟩ := exists_top hparse hcompile hbuild
    · exact (hrow.of_mem child).1
    · rw [root] at hstage
      exact nomatch hstage
  | _, _, .inside parent child =>
    ((opened_of_explained hbuild parent).foundAs hparse hcompile child).1

theorem opened_of_explained (hbuild : b.build = .ok t) :
    ∀ {n above e}, b.Explained t n above e → b.Opened (above.map Tree.key) n e
  | _, _, _, .whole root child => by
    obtain ⟨-, -, ⟨hnone, -⟩ | ⟨stage, c, hstage, hchildren, -, hopened⟩⟩ :=
      exists_top hparse hcompile hbuild
    · rw [hnone] at root
      exact nomatch root
    · obtain rfl := Option.some.inj (hstage.symm.trans root)
      rw [hchildren] at child
      rwa [List.mem_singleton.1 child]
  | _, _, _, .own found explanation same =>
    (foundAs_of_found hbuild found).opened hcompile explanation same
  | _, _, _, .other found explanation other child => by
    rcases (foundAs_of_found hbuild found).covered_or_opened explanation other with
      ⟨hchildren, -⟩ | ⟨c, hchildren, -, -, hopened⟩
    · rw [hchildren] at child
      simp at child
    · rw [hchildren] at child
      rwa [List.mem_singleton.1 child]

end

/-- Each node below the root was found by a search or is an explanation that the work went on
with. -/
theorem found_or_explained (hbuild : b.build = .ok t) (h : t.Below n above) :
    b.Found t n above ∨ ∃ e, b.Explained t n above e := by
  induction h with
  | top child =>
    cases hroot : b.rootStage? with
    | none => exact .inl (.top hroot child)
    | some stage => exact .inr ⟨_, .whole hroot child⟩
  | @child p n above _ child ih =>
    rcases ih with hfound | ⟨e, hexplained⟩
    · cases he : b.explanation p.rule p.span with
      | none =>
        rw [(foundAs_of_found hparse hcompile hbuild hfound).children_eq_nil he] at child
        simp at child
      | some e =>
        by_cases hown : e.rule.name = p.ruleName
        · exact .inl (.inside (.own hfound he hown) child)
        · exact .inr ⟨e, .other hfound he hown child⟩
    · exact .inl (.inside hexplained child)

end

/-! ## Runs on given inputs -/

/-- After a number of turns all work is done, the input is explained by `e`, and the node for it has
the span and children of these names and spans. -/
def EndsWith (b : Builder) (turns : ℕ) (e : Explanation) (span : Span)
    (keys : List (String × Span)) : Prop :=
  ((∀ n < turns, b.Fits n) ∧ (b.stateAfter turns).2.isEmpty) ∧
    b.rootStage?.map Stage.explanation = some e ∧
    ((b.stateAfter turns).1.toTree rootRule b.input).children.map
      (fun n => (n.span, n.children.map Tree.key)) = [(span, keys)]

instance (b : Builder) (turns : ℕ) (e : Explanation) (span : Span) (keys : List (String × Span)) :
    Decidable (b.EndsWith turns e span keys) :=
  inferInstanceAs (Decidable (_ ∧ _ ∧ _))

theorem EndsWith.exists_explained {turns : ℕ} {span : Span} {keys : List (String × Span)}
    (h : b.EndsWith turns e span keys) : ∃ t n, b.build = .ok t ∧ b.Explained t n [] e ∧
      n.span = span ∧ n.children.map Tree.key = keys := by
  obtain ⟨⟨hfits, hend⟩, hroot, hchildren⟩ := h
  obtain ⟨stage, hstage, rfl⟩ := Option.map_eq_some_iff.1 hroot
  obtain ⟨n, hn, hkeys⟩ := List.map_eq_singleton_iff.1 hchildren
  obtain ⟨hspan, hkeys⟩ := Prod.mk.inj hkeys
  exact ⟨_, n, build_eq_ok_iff.2 ⟨turns, hfits, List.isEmpty_iff.1 hend, rfl⟩,
    .whole hstage (hn ▸ List.mem_singleton_self n), hspan, hkeys⟩

end Builder

end PatternGrammar
