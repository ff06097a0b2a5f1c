import PatternGrammar.Proofs.Grammar.Reach
import PatternGrammar.Proofs.Tree.Anatomy

/-!
# The edges of a tree

There are two kinds of edges below the root. One leads from a match to the node of another rule that
explains its text. The other one leads from a node that the work went on in to a match of a rule
that its own rule refers to. As references form no cycles and an explanation is by another rule, a
node and a child of it never have the same rule.

Main result: `Builder.edges_justified`.
-/

namespace PatternGrammar

open PatternGrammar.Text (Span wholeSpan ne_nil_of_isName)

/-- The child explains the text of the node above it, which has no other children. The node is `p`,
in a tree `t`, where `above` are the nodes between them. -/
structure ExplanationEdge (g : Grammar) (c : CompiledGrammar) (t p : Tree) (above : List Tree)
    (child : Tree) : Prop where
  only : p.children = [child]
  span_eq : child.span = p.span
  rule_mem : child.rule ∈ g.rules
  structural : child.rule.description.isLiteral = false
  explains : ∃ e, c.explain p.text p.ruleName = some e ∧ e.rule = child.rule
  other : child.ruleName ≠ p.ruleName
  not_reaches : ¬g.Reaches child.ruleName p.ruleName
  new : ∀ a ∈ p :: above ++ [t], a.key ≠ child.key

/-- The rule of the node above refers to that of the child. -/
structure ReferenceEdge (g : Grammar) (p child : Tree) : Prop where
  structural : p.rule.description.isLiteral = false
  referenced : child.ruleName ∈ p.rule.description.references
  rule_eq : g.get? child.ruleName = some child.rule

/-- Why a node stands at the top of the tree of an input: it explains the input and is alone, or
nothing explains the input and it is a match of the start rule. -/
inductive TopEdge (c : CompiledGrammar) (input : String) (t child : Tree) : Prop
  | explains {e : Explanation} (explanation : c.explain input "" = some e)
    (only : t.children = [child]) (rule_eq : child.rule = e.rule)
    (structural : child.rule.description.isLiteral = false)
    (span_eq : child.span = wholeSpan input)
  | start (explanation : c.explain input "" = none) (rule_eq : child.rule = c.startRule)
    (found : child.span ∈ c.first.matcher.findAll input)
    (nonempty : child.span.start < child.span.stop)

/-- There is a reason for each edge of the tree of an input. -/
structure EdgesJustified (g : Grammar) (c : CompiledGrammar) (input : String) (t : Tree) :
    Prop where
  top : ∀ child ∈ t.children, TopEdge c input t child
  below : ∀ p above, t.Below p above → ∀ child ∈ p.children,
    ExplanationEdge g c t p above child ∨ ReferenceEdge g p child
  different : ∀ n ∈ t.nodes, ∀ child ∈ n.children, child.ruleName ≠ n.ruleName
  ofLiteral : ∀ n above, t.Below n above → n.rule.description.isLiteral = true →
    n.children.length ≤ 1

namespace Builder

variable {b : Builder} {t n p child : Tree} {e : Explanation} {path : List (String × Span)}
  {above : List Tree} {source : String} {g : Grammar}

/-! ## The rules of nodes -/

theorem FoundAs.rule_mem (hcompile : g.compile = .ok b.grammar) (h : b.FoundAs path n) :
    n.rule ∈ g.rules := by
  obtain ⟨order, hc⟩ := Grammar.exists_order_of_compile hcompile
  obtain ⟨r, hr, depth, hmade⟩ := h.made
  rw [(eq_of_attach hmade).1]
  exact hc.rule_mem hr

/-- The work only goes on in nodes of structural rules. -/
theorem Opened.rule_mem (hcompile : g.compile = .ok b.grammar) (h : b.Opened path n e) :
    n.rule ∈ g.rules ∧ n.rule.description.isLiteral = false := by
  obtain ⟨order, hc⟩ := Grammar.exists_order_of_compile hcompile
  obtain ⟨hrule, exclude, he⟩ := h.explainedBy
  obtain ⟨r, hr, hrule', -, hliteral, -⟩ := CompiledGrammar.exists_rule_of_explain he
  rw [hrule]
  exact ⟨hrule' ▸ hc.rule_mem hr, hliteral⟩

section

variable (hparse : Grammar.parse source = .ok g) (hcompile : g.compile = .ok b.grammar)

include hparse

theorem ruleName_ne_empty (h : n.rule ∈ g.rules) : n.ruleName ≠ "" := by
  have hname := (Grammar.readable_of_parse hparse n.rule h).name
  intro hempty
  rw [Tree.ruleName] at hempty
  rw [hempty] at hname
  exact ne_nil_of_isName hname rfl

include hcompile

theorem rule_mem_of_below (hbuild : b.build = .ok t) (h : t.Below n above) : n.rule ∈ g.rules := by
  rcases found_or_explained hparse hcompile hbuild h with hfound | ⟨e, hexplained⟩
  · exact (foundAs_of_found hparse hcompile hbuild hfound).rule_mem hcompile
  · exact ((opened_of_explained hparse hcompile hbuild hexplained).rule_mem hcompile).1

/-! ## Edges below the root -/

/-- Where the work went on in a node, its children are matches of what its rule refers to. -/
theorem Opened.referenceEdge (h : b.Opened path p e) (hchild : child ∈ p.children) :
    ReferenceEdge g p child := by
  obtain ⟨order, hc⟩ := Grammar.exists_order_of_compile hcompile
  obtain ⟨-, ⟨name, group⟩, htarget, r, hr, hrule⟩ := h.foundAs hparse hcompile hchild
  have hname : child.ruleName = name := by
    rw [Tree.ruleName, hrule]
    exact CompiledGrammar.name_of_find? hr
  refine ⟨(h.rule_mem hcompile).2, ?_, ?_⟩
  · rw [hname, h.rule_eq]
    exact mem_references_of_mem_targets htarget
  · rw [Tree.ruleName, hrule]
    exact Grammar.get?_of_mem hc.nodup (hc.rule_mem (CompiledGrammar.mem_of_find? hr))

/-- Where another rule explains a match, a child of it is the node of that rule. -/
theorem FoundAs.explanationEdge (hbuild : b.build = .ok t)
    (h : b.FoundAs (above.map Tree.key) p) (he : b.explanation p.rule p.span = some e)
    (hother : e.rule.name ≠ p.ruleName) (hchild : child ∈ p.children) :
    ExplanationEdge g b.grammar t p above child := by
  rcases h.covered_or_opened he hother with ⟨hchildren, -⟩ | ⟨c, hchildren, hspan, hnew, hopened⟩
  · rw [hchildren] at hchild
    simp at hchild
  · rw [hchildren] at hchild
    obtain rfl := List.mem_singleton.1 hchild
    obtain ⟨hrule, hliteral⟩ := hopened.rule_mem hcompile
    obtain ⟨r, -, depth, hmade⟩ := h.made
    obtain ⟨-, -, htext⟩ := eq_of_attach hmade
    rw [explanation_eq, ← htext] at he
    obtain ⟨r', -, -, hreach, -, -⟩ := CompiledGrammar.exists_rule_of_explain he
    have hname : child.ruleName = e.rule.name := by rw [Tree.ruleName, hopened.rule_eq]
    refine ⟨hchildren, hspan, hrule, hliteral, ⟨e, he, hopened.rule_eq.symm⟩, hname ▸ hother,
      ?_, ?_⟩
    · rw [hname, ← Grammar.mem_ancestors_iff hcompile]
      exact hreach
    · intro a ha hkey
      rcases List.mem_append.1 ha with ha | ha
      · exact hnew (hkey ▸ List.mem_map_of_mem ha)
      · -- the root has no name
        obtain rfl := List.mem_singleton.1 ha
        obtain ⟨hroot, -, -⟩ := exists_top hparse hcompile hbuild
        refine ruleName_ne_empty hparse hrule ?_
        rw [← show a.ruleName = child.ruleName from congrArg Prod.fst hkey, Tree.ruleName, hroot]
        rfl

theorem explanationEdge_or_referenceEdge (hbuild : b.build = .ok t) (h : t.Below p above)
    (hchild : child ∈ p.children) :
    ExplanationEdge g b.grammar t p above child ∨ ReferenceEdge g p child := by
  rcases found_or_explained hparse hcompile hbuild h with hfound | ⟨e, hexplained⟩
  · have hfoundAs := foundAs_of_found hparse hcompile hbuild hfound
    cases he : b.explanation p.rule p.span with
    | none =>
      rw [hfoundAs.children_eq_nil he] at hchild
      simp at hchild
    | some e =>
      by_cases hown : e.rule.name = p.ruleName
      · exact .inr ((hfoundAs.opened hcompile he hown).referenceEdge hparse hcompile hchild)
      · exact .inl (hfoundAs.explanationEdge hparse hcompile hbuild he hown hchild)
  · have hopened := opened_of_explained hparse hcompile hbuild hexplained
    exact .inr (hopened.referenceEdge hparse hcompile hchild)

/-! ## Edges at the top -/

theorem topEdge (hbuild : b.build = .ok t) (hchild : child ∈ t.children) :
    TopEdge b.grammar b.input t child := by
  have hroot := b.rootStage?_eq
  obtain ⟨-, -, ⟨hnone, hrow⟩ | ⟨stage, c, hstage, hchildren, hspan, hopened⟩⟩ :=
    exists_top hparse hcompile hbuild
  · obtain ⟨hfound, hrule, hhit⟩ := hrow.of_mem hchild
    -- there is no match in an empty input
    have hinput : b.input ≠ "" := by
      intro hempty
      obtain ⟨u, hu⟩ := Option.isSome_iff_exists.1 hfound.inRange
      have hstop := (Text.span_of_slice? hu).2
      have hnonempty := hfound.nonempty
      rw [hempty] at hstop
      simp at hstop
      omega
    rw [if_neg hinput] at hroot
    obtain ⟨m, hm, hspan⟩ := List.mem_map.1 hhit
    obtain ⟨hmem, -⟩ := List.mem_filter.1 hm
    rw [Text.slice_eq_of_slice? (Text.slice?_whole b.input)] at hmem
    refine .start ?_ hrule ?_ hfound.nonempty
    · exact Option.map_eq_none_iff.1 (hroot.symm.trans hnone)
    · rw [← hspan]
      simpa [Span.shift, wholeSpan] using hmem
  · obtain ⟨-, hinput, -⟩ := explanation_of_rootStage? hstage
    rw [if_neg hinput] at hroot
    obtain ⟨e, he, rfl⟩ := Option.map_eq_some_iff.1 (hroot.symm.trans hstage)
    rw [hchildren] at hchild
    obtain rfl := List.mem_singleton.1 hchild
    exact .explains he hchildren hopened.rule_eq (hopened.rule_mem hcompile).2 hspan

end

/-! ## All edges -/

/-- References form no cycle, so that a rule does not refer to itself. -/
theorem ruleName_ne_of_edge {c : CompiledGrammar} (hcompile : g.compile = .ok c)
    (hp : p.rule ∈ g.rules)
    (h : ExplanationEdge g c t p above child ∨ ReferenceEdge g p child) :
    child.ruleName ≠ p.ruleName := by
  obtain ⟨order, hc⟩ := Grammar.exists_order_of_compile hcompile
  rcases h with h | h
  · exact h.other
  · intro hsame
    refine hc.acyclic p.ruleName (.single ⟨p.rule, hp, rfl, ?_⟩)
    rw [← hsame]
    exact h.referenced

theorem length_children_le_one {c : CompiledGrammar} (hn : n.rule.description.isLiteral = true)
    (h : ∀ child ∈ n.children, ExplanationEdge g c t n above child ∨ ReferenceEdge g n child) :
    n.children.length ≤ 1 := by
  cases hchildren : n.children with
  | nil => simp
  | cons child rest =>
    rcases h child (by simp [hchildren]) with hedge | hedge
    · rw [← hchildren, hedge.only]
      simp
    · rw [hedge.structural] at hn
      exact nomatch hn

/-- For a grammar that is read from a source and compiles, any input and any limit: each edge of a
tree that is built is the one to an explanation of the node above or to a match of what its rule
refers to, and the edges from the root lead to the explanation of the input or to matches of the
start rule. -/
theorem edges_justified {c : CompiledGrammar} (hparse : Grammar.parse source = .ok g)
    (hcompile : g.compile = .ok c) (input : String) (maxDepth : ℕ) :
    ∀ t, (Builder.mk c input maxDepth).build = .ok t → EdgesJustified g c input t := by
  intro t hbuild
  have hbelow : ∀ p above, t.Below p above → ∀ child ∈ p.children,
      ExplanationEdge g c t p above child ∨ ReferenceEdge g p child := by
    intro p above hp child hchild
    exact explanationEdge_or_referenceEdge (b := Builder.mk c input maxDepth) hparse hcompile
      hbuild hp hchild
  have hrule : ∀ p above, t.Below p above → p.rule ∈ g.rules := fun p above hp =>
    rule_mem_of_below (b := Builder.mk c input maxDepth) hparse hcompile hbuild hp
  refine ⟨fun child hchild => ?_, hbelow, fun n hn child hchild => ?_,
    fun n above hn hliteral => length_children_le_one hliteral (hbelow n above hn)⟩
  · exact topEdge (b := Builder.mk c input maxDepth) hparse hcompile hbuild hchild
  · rcases Tree.eq_or_below_of_mem_nodes hn with rfl | ⟨above, habove⟩
    · obtain ⟨hroot, -, -⟩ := exists_top (b := Builder.mk c input maxDepth) hparse hcompile hbuild
      rw [show n.ruleName = "" by rw [Tree.ruleName, hroot]; rfl]
      exact ruleName_ne_empty hparse (hrule child [] (.top hchild))
    · exact ruleName_ne_of_edge hcompile (hrule n above habove) (hbelow n above habove child hchild)

theorem edges_justified_crossed : ∃ g c t, Grammar.parse crossed = .ok g ∧ g.compile = .ok c ∧
    (Builder.mk c "<a" 512).build = .ok t ∧ EdgesJustified g c "<a" t := by
  have hrun : (Grammar.parse crossed).toOption.any fun g : Grammar =>
      g.compile.toOption.any fun _ => decide (depthBound g "<a" ≤ 512) := by decide +kernel
  obtain ⟨g, hg, hrun⟩ := Grammar.exists_ok_of_any hrun
  obtain ⟨c, hc, hrun⟩ := Grammar.exists_ok_of_any hrun
  have hlimit : depthBound g "<a" ≤ 512 := of_decide_eq_true hrun
  obtain ⟨order, hcompiles⟩ := Grammar.exists_order_of_compile hc
  obtain ⟨t, ht⟩ := exists_build_eq_ok
    (fits_of_depthBound_le (b := Builder.mk c "<a" 512) hcompiles hlimit)
  exact ⟨g, c, t, hg, hc, ht, edges_justified hg hc "<a" 512 t ht⟩

end Builder

end PatternGrammar
