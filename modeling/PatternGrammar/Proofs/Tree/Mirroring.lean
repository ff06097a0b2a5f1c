import PatternGrammar.Proofs.Regex.AllMatches
import PatternGrammar.Proofs.Tree.Anatomy

/-!
# Parts and children

Inside a node that a composition or a choice explains, each named part that captured a group is
searched again in the text of the group, without regard to the rest. What it finds there are the
children of the node, part by part. So a part mostly gives one child, which spans the group; but its
rule can also find less than what it matched as a part, or find more than once
(`Builder.exists_child_shorter_than_group`).

Main result: `Builder.children_mirror_parts`.
-/

namespace PatternGrammar

open PatternGrammar.Text (Span slice wholeSpan)
open Recursion (hits)

/-- The rule is a row of parts or a choice between rules. -/
def Description.HasParts (d : Description) : Prop :=
  (∃ parts, d = .composition parts) ∨ ∃ alternatives, d = .choice alternatives

namespace Builder

/-- The nodes stand for what a rule matched in a group: they carry the rule and span its matches in
the text of the group. -/
structure Mirrors (b : Builder) (r : CompiledRule) (group : Span) (row : List Tree) : Prop where
  rule_eq : ∀ n ∈ row, n.rule = r.rule
  spans_eq : row.map Tree.span = hits b.input r group
  whole_iff : group.start < group.stop →
    ((∃ n, row = [n] ∧ n.span = group) ↔ r.matcher.FindsWhole (slice b.input group))

/-- What a part with the group that it captured gives to the children of a node, whose span begins
at the offset: nothing for a part without a name and for an alternative that was not taken. -/
inductive Contributes (b : Builder) (offset : ℕ) : Part × Option Span → List Tree → Prop
  | literal {pattern : String} {group : Option Span} :
    Contributes b offset (.literal pattern, group) []
  | untaken {name : String} : Contributes b offset (.name name, none) []
  | named {name : String} {group : Span} {r : CompiledRule} {row : List Tree}
    (rule : b.grammar.find? name = some r) (mirrors : b.Mirrors r (group.shift offset) row) :
    Contributes b offset (.name name, some group) row

/-- The children of a node mirror the parts of the rule that explains its text. -/
structure MirrorsParts (b : Builder) (n : Tree) (e : Explanation) : Prop
    extends ExplainedBy b.grammar n e where
  length_eq : e.groups.length = e.rule.description.components.length
  rows : ∃ rows, n.children = rows.flatten ∧
    List.Forall₂ (b.Contributes n.span.start) (e.rule.description.components.zip e.groups) rows

variable {b : Builder} {t n : Tree} {e : Explanation} {path : List (String × Span)}
  {above : List Tree} {source : String} {g : Grammar}

/-! ## Searches and parts -/

/-- Rows that belong to the elements with a value are rows for all elements, where the others have
an empty one. -/
theorem exists_rows_of_filterMap {α β γ : Type} {f : α → Option β} {R : β → List γ → Prop}
    {xs : List α} {rows : List (List γ)} (h : List.Forall₂ R (xs.filterMap f) rows) :
    ∃ all : List (List γ), all.flatten = rows.flatten ∧
      List.Forall₂ (fun x row => f x = none ∧ row = [] ∨ ∃ y, f x = some y ∧ R y row) xs all := by
  induction xs generalizing rows with
  | nil =>
    rw [List.filterMap_nil, List.forall₂_nil_left_iff] at h
    exact ⟨[], by rw [h], .nil⟩
  | cons x xs ih =>
    cases hx : f x with
    | none =>
      rw [List.filterMap_cons_none hx] at h
      obtain ⟨all, hflatten, hall⟩ := ih h
      exact ⟨[] :: all, hflatten, .cons (.inl ⟨hx, rfl⟩) hall⟩
    | some y =>
      rw [List.filterMap_cons_some hx] at h
      obtain ⟨row, rows, hrow, hrows, rfl⟩ := List.forall₂_cons_left_iff.1 h
      obtain ⟨all, hflatten, hall⟩ := ih hrows
      refine ⟨row :: all, ?_, .cons (.inr ⟨y, hx, hrow⟩) hall⟩
      rw [List.flatten_cons, List.flatten_cons, hflatten]

/-- The name of a part with its group, where it has both. -/
def target? : Part × Option Span → Option (String × Span)
  | (part, group) => do return (← part.ruleName?, ← group)

theorem targets_eq_of_hasParts (he : e.rule.description.HasParts) (whole : Span) :
    targets e whole = (e.rule.description.components.zip e.groups).filterMap target? := by
  unfold targets
  rcases he with ⟨parts, hdescription⟩ | ⟨alternatives, hdescription⟩
  · rw [hdescription]
    rfl
  · rw [hdescription]
    dsimp only
    rw [Description.components, List.zip_map_left, List.filterMap_map]
    rfl

theorem groupCount_of_hasParts {d : Description} (hd : d.HasParts) :
    d.groupCount = d.components.length := by
  rcases hd with ⟨parts, rfl⟩ | ⟨alternatives, rfl⟩ <;> rfl

/-! ## One child for a group -/

theorem shift_wholeSpan_slice {text : String} {span : Span} (h : span.InRange text) :
    (wholeSpan (slice text span)).shift span.start = span := by
  rw [wholeSpan, Span.shift, Nat.add_zero, byteSize_slice h]

theorem shift_injective (offset : ℕ) : Function.Injective (Span.shift offset) := by
  rintro ⟨start, stop⟩ ⟨start', stop'⟩ h
  simpa [Span.shift] using h

/-- A search finds its span and nothing else iff its first match is the whole text. -/
theorem hits_eq_singleton_iff {r : CompiledRule} (hr : Grammar.CompiledFrom r) {span : Span}
    (hspan : span.InRange b.input) (hne : span.start < span.stop) :
    hits b.input r span = [span] ↔ r.matcher.FindsWhole (slice b.input span) := by
  have htext : slice b.input span ≠ "" := by
    intro hempty
    have hsize := byteSize_slice hspan
    rw [hempty, String.toList_empty, Text.byteSize_nil] at hsize
    omega
  have hsingle : [span] = [wholeSpan (slice b.input span)].map (·.shift span.start) := by
    rw [List.map_singleton, shift_wholeSpan_slice hspan]
  rw [← Regex.filter_findAll_eq_iff (Regex.program_of_compile hr.1) htext, hits, hsingle]
  exact (List.map_injective_iff.2 (shift_injective span.start)).eq_iff

/-- The matches of a search mirror the group that it was made in. -/
theorem FoundRow.mirrors (hc : b.Compiled) {r : CompiledRule} (hr : r ∈ b.grammar.rules)
    {span : Span} (hspan : span.InRange b.input) {row : List Tree}
    (h : b.FoundRow path r span row) : b.Mirrors r span row := by
  refine ⟨fun n hn => (h.of_mem hn).2.1, h.map_span, fun hne => ?_⟩
  rw [← hits_eq_singleton_iff (hc r hr) hspan hne, ← h.map_span, List.map_eq_singleton_iff]

section

variable (hparse : Grammar.parse source = .ok g) (hcompile : g.compile = .ok b.grammar)

include hparse hcompile

/-- Part by part, the children of a node that the work went on in mirror what the parts captured. -/
theorem Opened.mirrorsParts (h : b.Opened path n e) (he : e.rule.description.HasParts) :
    b.MirrorsParts n e := by
  obtain ⟨order, hc⟩ := Grammar.exists_order_of_compile hcompile
  obtain ⟨-, exclude, hexplanation⟩ := h.explainedBy
  obtain ⟨rows, hchildren, hrows⟩ := h.exists_rows hparse hcompile
  rw [targets_eq_of_hasParts he] at hrows
  obtain ⟨all, hflatten, hall⟩ := exists_rows_of_filterMap hrows
  refine ⟨h.explainedBy, ?_, all, by rw [hchildren, hflatten], hall.imp ?_⟩
  · rw [CompiledGrammar.length_groups_of_explain hexplanation, groupCount_of_hasParts he]
  · rintro ⟨part, group⟩ row hrow
    cases part with
    | literal pattern =>
      rcases hrow with ⟨-, rfl⟩ | ⟨y, hy, -⟩
      · exact .literal
      · exact nomatch hy
    | name name =>
      cases group with
      | none =>
        rcases hrow with ⟨-, rfl⟩ | ⟨y, hy, -⟩
        · exact .untaken
        · exact nomatch hy
      | some group =>
        rcases hrow with ⟨hnone, -⟩ | ⟨y, hy, r, hr, hrange, hfound⟩
        · exact nomatch hnone
        · obtain rfl := Option.some.inj hy
          exact .named hr (hfound.mirrors hc.compiled (CompiledGrammar.mem_of_find? hr) hrange)

end

/-- For a grammar that is read from a source and compiles, any input and any limit: where the work
went on in a node by the explanation of a composition or of a choice, its children are what the
parts with a name find in the groups that they captured, in the order of the parts. For a group that
is not empty this is one child that spans the group iff the first match that the rule of the part
finds in the text of the group is all of it. -/
theorem children_mirror_parts {c : CompiledGrammar} (hparse : Grammar.parse source = .ok g)
    (hcompile : g.compile = .ok c) (input : String) (maxDepth : ℕ) :
    ∀ t, (Builder.mk c input maxDepth).build = .ok t → ∀ n above e,
      (Builder.mk c input maxDepth).Explained t n above e → e.rule.description.HasParts →
        (Builder.mk c input maxDepth).MirrorsParts n e :=
  fun _ hbuild _ _ _ hexplained he =>
    (opened_of_explained (b := Builder.mk c input maxDepth) hparse hcompile hbuild
      hexplained).mirrorsParts hparse hcompile he

theorem children_mirror_parts_pairs : ∃ c t n e,
    Grammar.parse Grammar.pairs.text = .ok Grammar.pairs ∧ Grammar.pairs.compile = .ok c ∧
    (Builder.mk c "a=b" 512).build = .ok t ∧ (Builder.mk c "a=b" 512).Explained t n [] e ∧
    e.rule.description.HasParts ∧ (Builder.mk c "a=b" 512).MirrorsParts n e := by
  have hparse : Grammar.parse Grammar.pairs.text = .ok Grammar.pairs := by decide +kernel
  have hrun : Grammar.pairs.compile.toOption.any fun c : CompiledGrammar =>
      decide ((Builder.mk c "a=b" 512).EndsWith 2
        ⟨⟨"pair", .composition [.name "key", .literal "=", .name "key"]⟩,
          [some ⟨0, 1⟩, some ⟨1, 2⟩, some ⟨2, 3⟩]⟩
        ⟨0, 3⟩ [("key", ⟨0, 1⟩), ("key", ⟨2, 3⟩)]) := by decide +kernel
  obtain ⟨c, hc, hrun⟩ := Grammar.exists_ok_of_any hrun
  obtain ⟨t, n, ht, hexplained, -, -⟩ := (of_decide_eq_true hrun).exists_explained
  have hparts : Description.HasParts (.composition [.name "key", .literal "=", .name "key"]) :=
    .inl ⟨_, rfl⟩
  exact ⟨c, t, n, _, hparse, hc, ht, hexplained, hparts,
    children_mirror_parts hparse hc "a=b" 512 t ht n [] _ hexplained hparts⟩

/-- A rule that prefers `x` to `xy`, in front of a `z`. -/
def shortening : String := "pair := a \x7bz\x7d\na := \x7bx|xy\x7d\n"

/-- In `xyz` the part `a` captures `xy`, but inside of that its rule finds `x` first, and nothing
behind it. -/
theorem exists_child_shorter_than_group : ∃ g c t n e, Grammar.parse shortening = .ok g ∧
    g.compile = .ok c ∧ (Builder.mk c "xyz" 512).build = .ok t ∧
    (Builder.mk c "xyz" 512).Explained t n [] e ∧
    e.rule.description = .composition [.name "a", .literal "z"] ∧
    e.groups = [some ⟨0, 2⟩, some ⟨2, 3⟩] ∧ n.span = ⟨0, 3⟩ ∧
    n.children.map Tree.key = [("a", ⟨0, 1⟩)] ∧ ¬∃ child ∈ n.children, child.span = ⟨0, 2⟩ := by
  have hrun : (Grammar.parse shortening).toOption.any fun g : Grammar =>
      g.compile.toOption.any fun c : CompiledGrammar =>
        decide ((Builder.mk c "xyz" 512).EndsWith 1
          ⟨⟨"pair", .composition [.name "a", .literal "z"]⟩, [some ⟨0, 2⟩, some ⟨2, 3⟩]⟩
          ⟨0, 3⟩ [("a", ⟨0, 1⟩)]) := by decide +kernel
  obtain ⟨g, hg, hrun⟩ := Grammar.exists_ok_of_any hrun
  obtain ⟨c, hc, hrun⟩ := Grammar.exists_ok_of_any hrun
  obtain ⟨t, n, ht, hexplained, hspan, hkeys⟩ := (of_decide_eq_true hrun).exists_explained
  refine ⟨g, c, t, n, _, hg, hc, ht, hexplained, rfl, rfl, hspan, hkeys, ?_⟩
  rintro ⟨child, hchild, hwhole⟩
  have hkey : child.key ∈ [("a", (⟨0, 1⟩ : Span))] := hkeys ▸ List.mem_map_of_mem hchild
  have hshort : child.span = ⟨0, 1⟩ := congrArg Prod.snd (List.mem_singleton.1 hkey)
  rw [hshort] at hwhole
  exact absurd hwhole (by decide)

end Builder

end PatternGrammar
