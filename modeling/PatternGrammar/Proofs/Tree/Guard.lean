import PatternGrammar.Proofs.Grammar.RoundTrip
import PatternGrammar.Proofs.Tree.Depth

/-!
# Explanations that come again

An explanation by another rule is only attached where its rule does not cover the span already. An
explanation by the own rule of a node is not checked in this way: it comes again where the node
itself stands further up. So the explanations on a way down are all different iff the nodes that
their own rules explain are (`Builder.nodup_explainedOn_iff`).
-/

namespace PatternGrammar.Builder

open PatternGrammar.Text (Span ne_nil_of_isName)

variable {b : Builder}

/-- Each node on a way down that its own rule explains is new on it. -/
def OwnNodesNew (b : Builder) : List Stage → Prop
  | [] => True
  | stage :: above => (stage.isOwn → stage.found ∉ b.keysOf above) ∧ OwnNodesNew b above

/-- The whole input is not explained by a rule without a name, as the root has it. -/
def RootNamed (b : Builder) : Prop := ∀ stage, b.rootStage? = some stage → stage.isOwn = false

theorem explained_mem {stage : Stage} : stage.explained ∈ stage.attached ++ [stage.found] := by
  cases hown : stage.isOwn with
  | true =>
    rw [Stage.explained_eq_found hown]
    exact List.mem_append_right _ (List.mem_singleton_self _)
  | false =>
    rw [Stage.attached, hown]
    exact List.mem_append_left _ (List.mem_singleton_self _)

/-- What has explained a span on a way down stands on the way up from its end. -/
theorem mem_keysOf_of_mem_explainedOn (hroot : b.RootNamed) {stages : List Stage}
    {key : String × Span} (h : key ∈ b.explainedOn stages) : key ∈ b.keysOf stages := by
  induction stages with
  | nil =>
    rw [explainedOn, List.nil_append] at h
    cases hstage : b.rootStage? with
    | none =>
      rw [hstage] at h
      simp at h
    | some stage =>
      rw [hstage] at h
      obtain rfl := List.mem_singleton.1 h
      rw [keysOf, rootKeys, hstage, Option.elim, Stage.attached, hroot stage hstage]
      exact List.mem_singleton_self _
  | cons stage above ih =>
    rw [keysOf, ← List.singleton_append, ← List.append_assoc]
    rcases List.mem_cons.1 h with rfl | h
    · exact List.mem_append_left _ explained_mem
    · exact List.mem_append_right _ (ih h)

/-- Explanations only depend on the name of the searched rule. -/
theorem explanation_congr {rule rule' : Rule} (h : rule.name = rule'.name) (span : Span) :
    b.explanation rule span = b.explanation rule' span := by
  rw [explanation, explanation, h]

/-- A node that its own rule explains is explained by this rule wherever it stands. -/
theorem mem_explainedOn_of_own {stages : List Stage} (h : b.Descends stages) {stage : Stage}
    (he : b.explanation stage.rule stage.span = some stage.explanation) (hown : stage.isOwn)
    (hmem : stage.found ∈ b.keysOf stages) : stage.found ∈ b.explainedOn stages := by
  induction h with
  | root =>
    rw [keysOf, rootKeys] at hmem
    cases hstage : b.rootStage? with
    | none =>
      rw [hstage] at hmem
      simp at hmem
    | some root =>
      rw [hstage, Option.elim, Stage.attached] at hmem
      rw [explainedOn, hstage]
      split at hmem
      · simp at hmem
      · exact hmem
  | @inside last above outer _ _ _ hlast _ ih =>
    rw [keysOf, List.mem_append, List.mem_cons] at hmem
    rcases hmem with hmem | hmem | hmem
    · unfold Stage.attached at hmem
      split at hmem
      · simp at hmem
      · obtain heq := List.mem_singleton.1 hmem
        rw [heq]
        exact List.mem_cons_self
    · -- the node is the last one, so that it has the same explanation
      obtain ⟨hname, hspan⟩ := Prod.mk.inj hmem
      rw [hspan, explanation_congr hname, hlast] at he
      have hlastOwn : last.isOwn := by
        rw [Stage.isOwn, beq_iff_eq] at hown ⊢
        rw [Option.some.inj he, hown, hname]
      rw [hmem, ← Stage.explained_eq_found hlastOwn]
      exact List.mem_cons_self
    · exact List.mem_cons_of_mem _ (ih hmem)

/-- The last explanation on a way down has come before iff it is that of a node by its own rule and
the node stands further up. -/
theorem explained_mem_explainedOn_iff (hroot : b.RootNamed) {stage : Stage} {above : List Stage}
    (h : b.Descends (stage :: above)) :
    stage.explained ∈ b.explainedOn above ↔ stage.isOwn ∧ stage.found ∈ b.keysOf above := by
  cases h with
  | inside habove _ _ he hguard =>
    constructor
    · intro hmem
      have hkeys := mem_keysOf_of_mem_explainedOn hroot hmem
      cases hown : stage.isOwn with
      | false => exact absurd hkeys (hguard hown)
      | true =>
        rw [Stage.explained_eq_found hown] at hkeys
        exact ⟨rfl, hkeys⟩
    · rintro ⟨hown, hmem⟩
      rw [Stage.explained_eq_found hown]
      exact mem_explainedOn_of_own habove he hown hmem

theorem nodup_explainedOn_iff_ownNodesNew (hroot : b.RootNamed) {stages : List Stage}
    (h : b.Descends stages) : (b.explainedOn stages).Nodup ↔ b.OwnNodesNew stages := by
  induction h with
  | root =>
    rw [explainedOn, OwnNodesNew, List.nil_append, iff_true]
    cases b.rootStage? <;> simp
  | @inside stage above outer habove hsearch hfound he hguard ih =>
    have hlast := explained_mem_explainedOn_iff hroot (.inside habove hsearch hfound he hguard)
    rw [show b.explainedOn (stage :: above) = stage.explained :: b.explainedOn above from rfl,
      List.nodup_cons, OwnNodesNew, ih, hlast, not_and]

theorem rootNamed_of_parse {source input : String} {g : Grammar} {c : CompiledGrammar}
    (hg : Grammar.parse source = .ok g) (hc : g.compile = .ok c) (maxDepth : ℕ) :
    (Builder.mk c input maxDepth).RootNamed := by
  intro stage hstage
  obtain ⟨order, hcompiles⟩ := Grammar.exists_order_of_compile hc
  obtain ⟨-, -, he⟩ := explanation_of_rootStage? hstage
  obtain ⟨r, hr, hrule⟩ := exists_rule_of_explanation he
  have hname := (Grammar.readable_of_parse hg r.rule (hcompiles.rule_mem hr)).name
  rw [hrule] at hname
  rw [Stage.isOwn, rule_of_rootStage? hstage, beq_eq_false_iff_ne]
  intro hempty
  rw [hempty] at hname
  exact ne_nil_of_isName hname rfl

/-- The work takes the ways down, and no others: nodes are added and searches wait because of ways
down, and each search that a way down leads to gets its turn. -/
structure TakesWays (b : Builder) : Prop where
  nodes : ∀ turns, b.Consistent (b.stateAfter turns).1
  searches : ∀ turns, ∀ s ∈ (b.stateAfter turns).2, ∃ stages,
    b.Waits (b.stateAfter turns).1 s stages
  turns : ∀ stages, b.Descends stages → ∀ search ∈ b.searchesAt stages, ∃ turns s rest,
    (b.stateAfter turns).2 = s :: rest ∧ b.Waits (b.stateAfter turns).1 s stages ∧
      (s.rule, s.span) = search

theorem takesWays {g : Grammar} {order : List String} (hc : g.CompilesTo b.grammar order) :
    b.TakesWays :=
  ⟨fun turns => (consistent_stateAfter b turns).1, fun turns => (consistent_stateAfter b turns).2,
    fun _ h => exists_turn_of_descends (exists_end hc) h⟩

/-- For a grammar that is read from a source and compiles, any input and any limit: the work takes
the ways down, and no rule explains a span twice on a way down iff no node that its own rule
explains stands twice on it. -/
theorem nodup_explainedOn_iff {source : String} {g : Grammar} {c : CompiledGrammar}
    (hg : Grammar.parse source = .ok g) (hc : g.compile = .ok c) (input : String) (maxDepth : ℕ) :
    (Builder.mk c input maxDepth).TakesWays ∧
      ∀ stages, (Builder.mk c input maxDepth).Descends stages →
        (((Builder.mk c input maxDepth).explainedOn stages).Nodup ↔
          (Builder.mk c input maxDepth).OwnNodesNew stages) := by
  obtain ⟨order, hcompiles⟩ := Grammar.exists_order_of_compile hc
  have hroot : (Builder.mk c input maxDepth).RootNamed := rootNamed_of_parse hg hc maxDepth
  refine ⟨takesWays (b := Builder.mk c input maxDepth) hcompiles, fun stages h => ?_⟩
  exact nodup_explainedOn_iff_ownNodesNew hroot h

/-- Two repetitions that lead to each other through rules for the same text: `x1` is explained by
`e1`, which leads to `x2`, which is explained by `e2`, which leads back to `r`. -/
def crossed : String :=
  "top := \x7b<\x7d r\ne2 := r+\nr := x1+\ne1 := x2+\nx1 := \x7ba\x7d\nx2 := \x7ba\x7d\n"

/-- A way down for `crossed` and the input `<a`, on which `r` explains one span twice. -/
def crossedWay : List Stage :=
  let again (rule : Rule) (e : String) (inner : String) : Stage :=
    ⟨rule, ⟨1, 2⟩, ⟨⟨e, .repetition inner 1 none⟩, [some ⟨0, 1⟩]⟩⟩
  let r : Rule := ⟨"r", .repetition "x1" 1 none⟩
  [again r "r" "x1", again ⟨"x2", .literal "a"⟩ "e2" "r", again ⟨"x1", .literal "a"⟩ "e1" "x2",
    again r "r" "x1"]

theorem nodup_explainedOn_iff_crossed : ∃ g c, Grammar.parse crossed = .ok g ∧ g.compile = .ok c ∧
    (Builder.mk c "<a" 512).Descends crossedWay ∧
    ¬((Builder.mk c "<a" 512).explainedOn crossedWay).Nodup ∧
    ¬(Builder.mk c "<a" 512).OwnNodesNew crossedWay := by
  have hway : (Grammar.parse crossed).toOption.any fun g : Grammar =>
      g.compile.toOption.any fun c : CompiledGrammar =>
        decide ((Builder.mk c "<a" 512).Descends crossedWay ∧
          ¬((Builder.mk c "<a" 512).explainedOn crossedWay).Nodup) := by decide +kernel
  obtain ⟨g, hg, hway⟩ := Grammar.exists_ok_of_any hway
  obtain ⟨c, hc, hway⟩ := Grammar.exists_ok_of_any hway
  obtain ⟨hdescends, hnodup⟩ := of_decide_eq_true hway
  refine ⟨g, c, hg, hc, hdescends, hnodup, fun hnew => hnodup ?_⟩
  exact ((nodup_explainedOn_iff hg hc "<a" 512).2 crossedWay hdescends).2 hnew

end PatternGrammar.Builder
