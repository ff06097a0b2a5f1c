import PatternGrammar.Proofs.Grammar.Patterns
import PatternGrammar.Proofs.Grammar.Permutation

/-!
# Patterns without a memo

What a rule stands for as a text is said by recursion over its references alone (`Grammar.Expands`): a
literal is its pattern, a repetition the expansion of its rule in a group with the shortest quantifier
of its bounds behind it, a choice the expansions of its alternatives in groups with bars between them,
a composition the expansions of its parts in groups one after another. Bounds without a quantifier
leave the empty text. The pattern with named groups has the same shape around the same expansions
(`Grammar.ExpandsInGroups`).

Compiling a grammar expands rules on demand and keeps what it has expanded in a memo, which is read
both for the plain patterns and for those with named groups. Whatever the order in which the memo is
filled, the two patterns of a compiled rule are the ones that the recursion gives.

Main result: `Grammar.patterns_iff_expands`.
-/

namespace PatternGrammar

open Description (Degenerate bounds_of_ofBounds? ofBounds?_eq_none_iff boundDigits)

/-! ## Shortest quantifiers -/

namespace Quantifier

variable {q q' : Quantifier} {min : UInt32} {max : Option UInt32}

/-- The quantifier stands for the bounds, which leave something to repeat, and no quantifier that
stands for them is written with fewer characters. -/
def Shortest (q : Quantifier) (min : UInt32) (max : Option UInt32) : Prop :=
  ¬Degenerate min max ∧ q.bounds = (min, max) ∧
    ∀ q' : Quantifier, q'.bounds = (min, max) → q.text.length ≤ q'.text.length

theorem length_text_exactly (n : UInt32) :
    (exactly n).text.length = (boundDigits n).length + 2 := by
  rw [← String.length_toList]
  simp [text, boundDigits]

theorem length_boundsText (min : UInt32) (max : Option UInt32) :
    (boundsText min max).length =
      (boundDigits min).length + (Description.highDigits max).length + 3 := by
  rw [← String.length_toList, Description.toList_boundsText]
  simp
  omega

/-- Of the quantifiers for bounds that leave something to repeat, the one that is chosen is written
with fewer characters than any other. -/
theorem eq_or_length_lt (h : ofBounds? min max = some q) (h' : q'.bounds = (min, max)) :
    q' = q ∨ q.text.length < q'.text.length := by
  cases q' with
  | optional =>
    obtain ⟨rfl, rfl⟩ := Prod.mk.inj h'
    exact .inl (Option.some.inj h)
  | zeroOrMore =>
    obtain ⟨rfl, rfl⟩ := Prod.mk.inj h'
    exact .inl (Option.some.inj h)
  | oneOrMore =>
    obtain ⟨rfl, rfl⟩ := Prod.mk.inj h'
    exact .inl (Option.some.inj h)
  | exactly n =>
    obtain ⟨rfl, rfl⟩ := Prod.mk.inj h'
    rw [ofBounds?] at h
    split at h
    · simp at h
    · split at h
      · rename_i hoptional
        exact absurd (hoptional.1.symm.trans hoptional.2) (by decide)
      · rw [if_pos rfl] at h
        exact .inl (Option.some.inj h)
  | atLeast n =>
    obtain ⟨rfl, rfl⟩ := Prod.mk.inj h'
    have hlength : 1 < (atLeast n).text.length := by
      rw [text, length_boundsText]
      omega
    rw [ofBounds?] at h
    split at h
    · obtain rfl := Option.some.inj h
      exact .inr hlength
    · split at h
      · obtain rfl := Option.some.inj h
        exact .inr hlength
      · exact .inl (Option.some.inj h)
  | between low high =>
    obtain ⟨rfl, rfl⟩ := Prod.mk.inj h'
    have hlength : (boundDigits low).length + 2 < (between low high).text.length := by
      rw [text, length_boundsText]
      omega
    rw [ofBounds?] at h
    split at h
    · simp at h
    · split at h
      · obtain rfl := Option.some.inj h
        exact .inr (show 1 < _ by omega)
      · split at h
        · obtain rfl := Option.some.inj h
          exact .inr (by rwa [length_text_exactly])
        · exact .inl (Option.some.inj h)

theorem shortest_iff : q.Shortest min max ↔ ofBounds? min max = some q := by
  constructor
  · rintro ⟨hbounds, hq, hshortest⟩
    obtain ⟨q₀, hq₀⟩ := Option.ne_none_iff_exists'.1
      (fun hnone => hbounds (ofBounds?_eq_none_iff.1 hnone))
    have hle := hshortest q₀ (bounds_of_ofBounds? hq₀)
    rcases eq_or_length_lt hq₀ hq with rfl | hlt
    · exact hq₀
    · omega
  · intro h
    refine ⟨fun hdegenerate => ?_, bounds_of_ofBounds? h, fun q' hq' => ?_⟩
    · rw [ofBounds?_eq_none_iff.2 hdegenerate] at h
      simp at h
    · rcases eq_or_length_lt h hq' with rfl | hlt
      · exact Nat.le_refl _
      · exact Nat.le_of_lt hlt

end Quantifier

namespace Grammar

variable {g : Grammar} {c : CompiledGrammar} {name : String}

/-! ## Expansions by recursion alone -/

mutual

/-- The rule expands to the text. -/
inductive Expands (g : Grammar) : Rule → String → Prop
  | literal {name pattern : String} : Expands g ⟨name, .literal pattern⟩ pattern
  | repetition {name rule body : String} {min : UInt32} {max : Option UInt32} {q : Quantifier}
    (shortest : q.Shortest min max) (part : ExpandsPart g (.name rule) body) :
    Expands g ⟨name, .repetition rule min max⟩ (grouped body ++ q.text)
  | degenerate {name rule : String} {min : UInt32} {max : Option UInt32}
    (bounds : Degenerate min max) : Expands g ⟨name, .repetition rule min max⟩ ""
  | choice {name : String} {alternatives bodies : List String}
    (row : ExpandsRow g (alternatives.map .name) bodies) :
    Expands g ⟨name, .choice alternatives⟩ ("|".intercalate (bodies.map grouped))
  | composition {name : String} {parts : List Part} {bodies : List String}
    (row : ExpandsRow g parts bodies) :
    Expands g ⟨name, .composition parts⟩ (String.join (bodies.map grouped))

/-- The component expands to the text: a literal to its pattern, a name to what its rule expands
to. -/
inductive ExpandsPart (g : Grammar) : Part → String → Prop
  | name {name body : String} {r : Rule} (rule : g.get? name = some r) (expands : Expands g r body) :
    ExpandsPart g (.name name) body
  | literal {pattern : String} : ExpandsPart g (.literal pattern) pattern

/-- The components expand to the texts, in order. -/
inductive ExpandsRow (g : Grammar) : List Part → List String → Prop
  | nil : ExpandsRow g [] []
  | cons {part : Part} {body : String} {parts : List Part} {bodies : List String}
    (first : ExpandsPart g part body) (rest : ExpandsRow g parts bodies) :
    ExpandsRow g (part :: parts) (body :: bodies)

end

/-- The rule expands to the text if the expansion of each component is put into the named group of
its number. -/
inductive ExpandsInGroups (g : Grammar) : Rule → String → Prop
  | literal {name pattern : String} :
    ExpandsInGroups g ⟨name, .literal pattern⟩ (groupedAs 0 pattern)
  | repetition {name rule body : String} {min : UInt32} {max : Option UInt32} {q : Quantifier}
    (shortest : q.Shortest min max) (part : g.ExpandsPart (.name rule) body) :
    ExpandsInGroups g ⟨name, .repetition rule min max⟩ (groupedAs 0 body ++ q.text)
  | degenerate {name rule : String} {min : UInt32} {max : Option UInt32}
    (bounds : Degenerate min max) : ExpandsInGroups g ⟨name, .repetition rule min max⟩ ""
  | choice {name : String} {alternatives bodies : List String}
    (row : g.ExpandsRow (alternatives.map .name) bodies) :
    ExpandsInGroups g ⟨name, .choice alternatives⟩ ("|".intercalate (bodies.mapIdx groupedAs))
  | composition {name : String} {parts : List Part} {bodies : List String}
    (row : g.ExpandsRow parts bodies) :
    ExpandsInGroups g ⟨name, .composition parts⟩ (String.join (bodies.mapIdx groupedAs))

theorem expandsPart_literal_iff {pattern body : String} :
    g.ExpandsPart (.literal pattern) body ↔ body = pattern :=
  ⟨fun | .literal => rfl, fun h => h ▸ .literal⟩

theorem expandsPart_name_iff {ref body : String} {r : Rule} (hr : g.get? ref = some r) :
    g.ExpandsPart (.name ref) body ↔ g.Expands r body := by
  constructor
  · rintro ⟨hr', h⟩
    obtain rfl := Option.some.inj (hr.symm.trans hr')
    exact h
  · exact .name hr

/-- Where each component expands to one text, so does the row. -/
theorem expandsRow_iff {parts : List Part} {f : Part → String}
    (hparts : ∀ part ∈ parts, ∀ body, g.ExpandsPart part body ↔ body = f part)
    {bodies : List String} : g.ExpandsRow parts bodies ↔ bodies = parts.map f := by
  induction parts generalizing bodies with
  | nil => exact ⟨fun | .nil => rfl, fun h => h ▸ .nil⟩
  | cons part parts ih =>
    obtain ⟨hpart, hparts⟩ := List.forall_mem_cons.1 hparts
    constructor
    · rintro ⟨⟩
      rename_i first rest
      rw [List.map_cons, (hpart _).1 first, (ih hparts).1 rest]
    · rintro rfl
      exact .cons ((hpart _).2 rfl) ((ih hparts).2 rfl)

theorem assemble_repetition {rule body : String} {min : UInt32} {max : Option UInt32}
    {q : Quantifier} (h : Quantifier.ofBounds? min max = some q) :
    (Description.repetition rule min max).assemble [body] = grouped body ++ q.text ∧
      (Description.repetition rule min max).assembleGroups [body] = groupedAs 0 body ++ q.text := by
  simp [Description.assemble, Description.assembleGroups, h]

theorem assembleGroups_degenerate {rule : String} {min : UInt32} {max : Option UInt32}
    (h : Degenerate min max) (bodies : List String) :
    (Description.repetition rule min max).assembleGroups bodies = "" := by
  rw [Description.assembleGroups, ofBounds?_eq_none_iff.2 h]

section

variable {r : Rule} {f : Part → String} {p : String}
  (hparts : ∀ part ∈ r.description.components, ∀ body, g.ExpandsPart part body ↔ body = f part)

include hparts

/-- Where each component of a rule expands to one text, so does the rule. -/
theorem expands_iff :
    g.Expands r p ↔ p = r.description.assemble (r.description.components.map f) := by
  obtain ⟨name, d⟩ := r
  cases d with
  | repetition rule min max =>
    have hpart := hparts (.name rule) List.mem_cons_self
    constructor
    · intro h
      cases h with
      | repetition shortest part =>
        obtain rfl := (hpart _).1 part
        exact (assemble_repetition (Quantifier.shortest_iff.1 shortest)).1.symm
      | degenerate bounds => exact (Description.assemble_degenerate bounds rule).symm
    · rintro rfl
      cases hq : Quantifier.ofBounds? min max with
      | none =>
        have hbounds := ofBounds?_eq_none_iff.1 hq
        exact Description.assemble_degenerate hbounds rule ▸ .degenerate hbounds
      | some q =>
        exact (assemble_repetition hq).1 ▸
          .repetition (Quantifier.shortest_iff.2 hq) ((hpart _).2 rfl)
  | choice alternatives =>
    constructor
    · rintro ⟨⟩
      rename_i row
      rw [(expandsRow_iff hparts).1 row]
      rfl
    · rintro rfl
      exact .choice ((expandsRow_iff hparts).2 rfl)
  | literal pattern =>
    have hpattern : f (.literal pattern) = pattern :=
      ((hparts _ List.mem_cons_self _).1 .literal).symm
    show _ ↔ p = (Description.literal pattern).assemble [f (.literal pattern)]
    rw [hpattern, Description.assemble_literal]
    exact ⟨fun | .literal => rfl, fun h => h ▸ .literal⟩
  | composition parts =>
    constructor
    · rintro ⟨⟩
      rename_i row
      rw [(expandsRow_iff hparts).1 row]
      rfl
    · rintro rfl
      exact .composition ((expandsRow_iff hparts).2 rfl)

/-- Where each component of a rule expands to one text, so does the rule with named groups. -/
theorem expandsInGroups_iff :
    g.ExpandsInGroups r p ↔ p = r.description.assembleGroups (r.description.components.map f) := by
  obtain ⟨name, d⟩ := r
  cases d with
  | repetition rule min max =>
    have hpart := hparts (.name rule) List.mem_cons_self
    constructor
    · intro h
      cases h with
      | repetition shortest part =>
        obtain rfl := (hpart _).1 part
        exact (assemble_repetition (Quantifier.shortest_iff.1 shortest)).2.symm
      | degenerate bounds => exact (assembleGroups_degenerate bounds _).symm
    · rintro rfl
      cases hq : Quantifier.ofBounds? min max with
      | none =>
        have hbounds := ofBounds?_eq_none_iff.1 hq
        exact assembleGroups_degenerate hbounds _ ▸ .degenerate hbounds
      | some q =>
        exact (assemble_repetition hq).2 ▸
          .repetition (Quantifier.shortest_iff.2 hq) ((hpart _).2 rfl)
  | choice alternatives =>
    constructor
    · rintro ⟨⟩
      rename_i row
      rw [(expandsRow_iff hparts).1 row]
      rfl
    · rintro rfl
      exact .choice ((expandsRow_iff hparts).2 rfl)
  | literal pattern =>
    have hpattern : f (.literal pattern) = pattern :=
      ((hparts _ List.mem_cons_self _).1 .literal).symm
    have hgroups : (Description.literal pattern).assembleGroups [f (.literal pattern)] =
        groupedAs 0 pattern := by
      simp [Description.assembleGroups, hpattern]
    show _ ↔ p = (Description.literal pattern).assembleGroups [f (.literal pattern)]
    rw [hgroups]
    constructor
    · rintro ⟨⟩
      rfl
    · rintro rfl
      exact .literal
  | composition parts =>
    constructor
    · rintro ⟨⟩
      rename_i row
      rw [(expandsRow_iff hparts).1 row]
      rfl
    · rintro rfl
      exact .composition ((expandsRow_iff hparts).2 rfl)

end

/-! ## Compiled grammars -/

/-- Each component of a rule of a compiled grammar expands to one text. -/
theorem expandsPart_iff (h : g.compile = .ok c) : ∀ r ∈ g.rules, ∀ part ∈ r.description.components,
    ∀ body, g.ExpandsPart part body ↔ body = g.bodyOf part := by
  have hvalid := valid_of_compile h
  obtain ⟨order, hc⟩ := exists_order_of_compile h
  have hrules : ∀ cr ∈ c.rules, ∀ part ∈ cr.rule.description.components,
      ∀ body, g.ExpandsPart part body ↔ body = g.bodyOf part := by
    refine hc.induction fun cr hcr ih part hpart body => ?_
    cases part with
    | literal pattern => exact expandsPart_literal_iff
    | name ref =>
      have href := mem_references_of_mem_components hpart
      obtain ⟨cr', hcr'⟩ := exists_find?_of_mem_references h hcr href
      have hmem := hc.rule_mem (CompiledGrammar.mem_of_find? hcr')
      have hget := get?_of_mem hc.nodup hmem
      obtain rfl := CompiledGrammar.name_of_find? hcr'
      rw [expandsPart_name_iff hget, expands_iff (ih _ href cr' hcr'), bodyOf, hget,
        Option.map_some, Option.getD_some, patternOf_eq hc.nodup hc.defined hc.acyclic hmem]
  intro r hr
  rw [← hc.rules_eq] at hr
  obtain ⟨cr, hcr, rfl⟩ := List.mem_map.1 hr
  exact hrules cr hcr

/-- What is looked up for a name is there for the names of rules, and is what holds of the rule. -/
theorem lookUp_iff (hnodup : (g.rules.map Rule.name).Nodup) {f : Rule → String}
    {E : Rule → String → Prop} (hE : ∀ r ∈ g.rules, ∀ p, E r p ↔ p = f r) (name : String) :
    ((∃ p, (g.get? name).map f = some p) ↔ ∃ r ∈ g.rules, r.name = name) ∧
      ∀ p, (g.get? name).map f = some p ↔ ∃ r ∈ g.rules, r.name = name ∧ E r p := by
  have hlookUp : ∀ p, (g.get? name).map f = some p ↔ ∃ r ∈ g.rules, r.name = name ∧ E r p := by
    intro p
    rw [Option.map_eq_some_iff]
    simp only [get?_eq_some_iff hnodup, and_assoc]
    refine exists_congr fun r => and_congr_right fun hr => and_congr_right fun _ => ?_
    rw [hE r hr, eq_comm]
  refine ⟨⟨?_, ?_⟩, hlookUp⟩
  · rintro ⟨p, hp⟩
    obtain ⟨r, hr, hname, -⟩ := (hlookUp p).1 hp
    exact ⟨r, hr, hname⟩
  · rintro ⟨r, hr, hname⟩
    exact ⟨f r, (hlookUp _).2 ⟨r, hr, hname, (hE r hr _).2 rfl⟩⟩

/-- The names that have patterns in a compiled grammar are those of the rules, and their patterns are
what the rules expand to by recursion alone, plain and in named groups. -/
theorem patterns_iff_expands (h : g.compile = .ok c) (name : String) :
    (((∃ p, c.pattern? name = some p) ↔ ∃ r ∈ g.rules, r.name = name) ∧
      ∀ p, c.pattern? name = some p ↔ ∃ r ∈ g.rules, r.name = name ∧ g.Expands r p) ∧
    ((∃ p, c.groupPattern? name = some p) ↔ ∃ r ∈ g.rules, r.name = name) ∧
      ∀ p, c.groupPattern? name = some p ↔
        ∃ r ∈ g.rules, r.name = name ∧ g.ExpandsInGroups r p := by
  have hvalid := valid_of_compile h
  have hplain : ∀ r ∈ g.rules, ∀ p, g.Expands r p ↔ p = g.patternOf r := by
    intro r hr p
    rw [expands_iff (expandsPart_iff h r hr),
      patternOf_eq hvalid.nodup hvalid.defined hvalid.acyclic hr]
  have hnamed : ∀ r ∈ g.rules, ∀ p, g.ExpandsInGroups r p ↔ p = g.groupPatternOf r :=
    fun r hr p => expandsInGroups_iff (expandsPart_iff h r hr)
  obtain ⟨hpattern, hgroups⟩ := patterns?_eq h name
  rw [hpattern, hgroups]
  exact ⟨lookUp_iff hvalid.nodup hplain name, lookUp_iff hvalid.nodup hnamed name⟩

/-- A rule that is reached in two ways, and a repetition without a quantifier. -/
def sharing : Grammar :=
  ⟨[⟨"line", .composition [.name "items", .literal "; |, ", .name "none"]⟩,
    ⟨"items", .repetition "item" 0 none⟩, ⟨"none", .repetition "item" 2 (some 1)⟩,
    ⟨"item", .choice ["word", "pair"]⟩, ⟨"pair", .repetition "word" 2 (some 2)⟩,
    ⟨"word", .literal "[a-z]"⟩]⟩

theorem patterns_iff_expands_sharing : ∃ c, sharing.compile = .ok c ∧
    c.pattern? "line" = some "(?:(?:(?:[a-z])|(?:(?:[a-z]){2}))*)(?:; |, )(?:)" ∧
    c.groupPattern? "line" =
      some "(?P<__part0>(?:(?:[a-z])|(?:(?:[a-z]){2}))*)(?P<__part1>; |, )(?P<__part2>)" ∧
    c.groupPattern? "none" = some "" ∧ c.pattern? "other" = none := by
  have hok : sharing.compile.toOption.any fun _ => true := by decide +kernel
  obtain ⟨c, hc, -⟩ := exists_ok_of_any hok
  have hword : sharing.ExpandsPart (.name "word") "[a-z]" := .name rfl .literal
  have hpair : sharing.ExpandsPart (.name "pair") _ :=
    .name rfl (.repetition (Quantifier.shortest_iff.2 rfl) hword)
  have halternatives := ExpandsRow.cons hword (.cons hpair .nil)
  have hitem : sharing.ExpandsPart (.name "item") _ :=
    .name (r := ⟨"item", .choice ["word", "pair"]⟩) rfl (.choice halternatives)
  have hitems : sharing.ExpandsPart (.name "items") _ :=
    .name rfl (.repetition (Quantifier.shortest_iff.2 rfl) hitem)
  have hbounds : Degenerate 2 (some 1) := ⟨1, rfl, .inr (by decide)⟩
  have hnone : sharing.ExpandsPart (.name "none") "" := .name rfl (.degenerate hbounds)
  have hcomma : sharing.ExpandsPart (.literal "; |, ") "; |, " := .literal
  have hrow := ExpandsRow.cons hitems (.cons hcomma (.cons hnone .nil))
  obtain ⟨⟨-, hline⟩, -, hgroups⟩ := patterns_iff_expands hc "line"
  obtain ⟨-, -, hdegenerate⟩ := patterns_iff_expands hc "none"
  obtain ⟨⟨hother, -⟩, -⟩ := patterns_iff_expands hc "other"
  refine ⟨c, hc, ?_, ?_, ?_, ?_⟩
  · rw [(hline _).2 ⟨_, List.mem_cons_self, rfl, .composition hrow⟩]
    decide +kernel
  · rw [(hgroups _).2 ⟨_, List.mem_cons_self, rfl, .composition hrow⟩]
    decide +kernel
  · have hmem : ⟨"none", .repetition "item" 2 (some 1)⟩ ∈ sharing.rules := by decide
    exact (hdegenerate _).2 ⟨_, hmem, rfl, .degenerate hbounds⟩
  · rw [Option.eq_none_iff_forall_ne_some]
    intro p hp
    obtain ⟨r, hr, hname⟩ := hother.1 ⟨p, hp⟩
    revert r
    decide

end Grammar

end PatternGrammar
