import PatternGrammar.Proofs.Grammar.Explanation
import PatternGrammar.Proofs.Grammar.Patterns
import PatternGrammar.Proofs.Grammar.Reach
import PatternGrammar.Proofs.Regex.Renaming.Whole

/-!
# Excluded names

A text is explained by the first rule that qualifies: one that has parts, does not reach the
excluded name, matches the whole text by its pattern with named groups, and has the groups that it
needs (`Grammar.Qualifies`). The name that is excluded only takes away the rules that reach it. So
it never brings in an explanation where there is none without it, and it does not change one by a
rule that stays.

That the pattern with named groups matches whole texts only, in each grammar that compiles, is not
due to the anchors alone, since a literal may close the group around it. It holds because the plain
pattern of the rule is a regular expression (`Grammar.wholeOnly_of_compile`).

Main result: `CompiledGrammar.exclusion_skips_referrers`.
-/

namespace PatternGrammar

open PatternGrammar.Regex (plainParts nameParts)
open PatternGrammar.Regex.Reader (Inert Nameable Renamed wrapAll)
open PatternGrammar.Text (Span)

variable {g : Grammar} {c : CompiledGrammar} {text exclude : String}

/-! ## Patterns with named groups -/

theorem inert_of_isNameChar {c : Char} (h : Text.isNameChar c) : Inert c := by
  refine ⟨Text.isBlank_of_isNameChar h, fun hc => ?_⟩
  have hmarks : ∀ c ∈ ['#', '[', ']', '-', '&', '~', '\\', '}'], Text.isNameChar c = false :=
    List.all_iff_forall_prop.1 (by decide)
  rw [hmarks c hc] at h
  exact absurd h (by decide)

theorem nameable_groupName (i : ℕ) : Nameable (groupName i) := by
  have hchars : ∀ c ∈ (groupName i).toList, Text.isNameChar c := by
    intro c hc
    have hfront : ∀ c ∈ "__part".toList, Text.isNameChar c :=
      List.all_iff_forall_prop.1 (by decide)
    rw [groupName, String.toList_append, List.mem_append] at hc
    rcases hc with hc | hc
    · exact hfront c hc
    · have hdigits : c ∈ Nat.toDigits 10 i := by simpa using hc
      have hdigit := Nat.isDigit_of_mem_toDigits (by decide) (by decide) hdigits
      simp [Text.isNameChar, Char.isAlphanum, hdigit]
  exact ⟨fun c hc => inert_of_isNameChar (hchars c hc), fun hc => absurd (hchars _ hc) (by decide)⟩

theorem nameable_of_mem_namedBodies (bodies : List String) :
    ∀ part ∈ namedBodies bodies, Nameable part.1 :=
  List.forall_mem_map.2 fun b _ => nameable_groupName b.2

theorem plainParts_eq_map (bodies : List String) :
    plainParts bodies = (namedBodies bodies).map fun part => (none, part.2) := by
  rw [plainParts, namedBodies, List.map_map, ← List.zipIdx_map_fst 0 bodies, List.map_map,
    List.zipIdx_map_fst]
  rfl

/-- The pattern of a rule with parts, and the one with named groups. -/
theorem Description.renamed_assemble {d : Description} (hd : d.isLiteral = false)
    (bodies : List String) (back : List Char) : Renamed back true (d.assemble bodies).toList
      ((d.assembleGroups bodies).toList ++ back) := by
  have hnames := nameable_of_mem_namedBodies bodies
  cases d with
  | literal pattern => simp [isLiteral] at hd
  | composition parts =>
    rw [toList_assemble_composition, toList_assembleGroups_composition, plainParts_eq_map]
    simpa using Renamed.row hnames (.done : Renamed back true [] back)
  | choice alternatives =>
    rw [toList_assemble_choice, toList_assembleGroups_choice, plainParts_eq_map]
    exact Renamed.barred hnames
  | repetition rule min max =>
    cases hq : Quantifier.ofBounds? min max with
    | none =>
      rw [assemble, assembleGroups, hq]
      exact .done
    | some q =>
      have hplain := (writtenAs_plainParts bodies).toList_join
      have hnamed := (writtenAs_namedBodies bodies).toList_join
      simp only [assemble, assembleGroups, hq, String.toList_append, hplain, hnamed,
        plainParts_eq_map, List.append_assoc]
      exact Renamed.row hnames (.append_back true q.text.toList)

theorem Grammar.compile_groupPatternOf (h : g.compile = .ok c) {cr : CompiledRule}
    (hcr : cr ∈ c.rules) : Regex.compile (anchored (g.groupPatternOf cr.rule)) = .ok cr.groups := by
  obtain ⟨order, hc⟩ := exists_order_of_compile h
  rw [← (patterns_eq_of_compile h hcr).2]
  exact (hc.compiled cr hcr).2

/-- In a grammar that compiles the pattern with named groups of a rule with parts matches whole texts
only. -/
theorem Grammar.wholeOnly_of_compile (h : g.compile = .ok c) {cr : CompiledRule}
    (hcr : cr ∈ c.rules) (hstructural : cr.rule.description.isLiteral = false) (text : String) :
    cr.groups.WholeOnly text := by
  obtain ⟨order, hc⟩ := exists_order_of_compile h
  have hplain := (hc.compiled cr hcr).1
  rw [(patterns_eq_of_compile h hcr).1,
    patternOf_eq hc.nodup hc.defined hc.acyclic (hc.rule_mem hcr)] at hplain
  exact Regex.wholeOnly_of_renamed hplain (compile_groupPatternOf h hcr) (toList_anchored _)
    (Description.renamed_assemble hstructural _ _) text

/-! ## Rules that qualify -/

/-- The rule has parts, does not reach the excluded name, and matches the whole text with groups
among which are all that it needs. -/
structure Grammar.Qualifies (g : Grammar) (text exclude : String) (r : Rule)
    (groups : List (Option Span)) : Prop where
  structural : r.description.isLiteral = false
  apart : ¬g.Reaches r.name exclude
  matches_whole : ∃ re, Regex.compile (Grammar.anchored (g.groupPatternOf r)) = .ok re ∧
    re.MatchesWhole text ∧ re.named r.description.groupNames text = some groups
  populated : r.description.groupsPopulated groups

namespace CompiledRule

/-- The explanation of a text by one rule. -/
def explanation? (text : String) (cr : CompiledRule) : Option Explanation :=
  match cr.attempt text with
  | .explains groups => some ⟨cr.rule, groups⟩
  | _ => none

theorem explanation?_eq_some_iff {cr : CompiledRule} {e : Explanation} :
    cr.explanation? text = some e ↔
      cr.rule = e.rule ∧ cr.attempt text = .explains e.groups := by
  unfold explanation?
  cases e
  split <;> simp_all

end CompiledRule

/-! ## The first rule that qualifies -/

namespace CompiledGrammar

theorem explainBy_eq_findSome? (rules : List CompiledRule) :
    explainBy text rules = rules.findSome? (CompiledRule.explanation? text) := by
  induction rules with
  | nil => rfl
  | cons cr rules ih =>
    rw [explainBy, List.findSome?_cons, CompiledRule.explanation?, ih]
    cases cr.attempt text <;> rfl

/-- Whether a rule is tried where a name is excluded. -/
def tries (c : CompiledGrammar) (exclude : String) (cr : CompiledRule) : Bool :=
  !(c.ancestors exclude).contains cr.rule.name && !cr.rule.description.isLiteral

theorem explain_eq_findSome? : c.explain text exclude = c.rules.findSome? fun cr =>
    if c.tries exclude cr then cr.explanation? text else none := by
  have hcandidates : c.candidates exclude = c.rules.filter (c.tries exclude) := rfl
  rw [explain, explainBy_eq_findSome?, hcandidates, ← List.head?_filterMap, List.filterMap_filter,
    List.head?_filterMap]

end CompiledGrammar

namespace Grammar

/-- Whether a rule qualifies can be told from its compiled form. -/
theorem qualifies_iff (h : g.compile = .ok c) {cr : CompiledRule} (hcr : cr ∈ c.rules)
    {groups : List (Option Span)} : g.Qualifies text exclude cr.rule groups ↔
      c.tries exclude cr ∧ cr.attempt text = .explains groups := by
  have hregex := compile_groupPatternOf h hcr
  have htries : c.tries exclude cr ↔
      ¬g.Reaches cr.rule.name exclude ∧ cr.rule.description.isLiteral = false := by
    simp [CompiledGrammar.tries, mem_ancestors_iff h]
  rw [htries, CompiledGrammar.attempt_eq_explains_iff]
  constructor
  · rintro ⟨hstructural, hapart, ⟨re, hre, -, hnamed⟩, hpopulated⟩
    obtain rfl := Except.ok.inj (hre.symm.trans hregex)
    exact ⟨⟨hapart, hstructural⟩, hnamed, hpopulated⟩
  · rintro ⟨⟨hapart, hstructural⟩, hnamed, hpopulated⟩
    have hwhole := (Regex.isSome_named_iff hregex (wholeOnly_of_compile h hcr hstructural text)
      _).1 ⟨groups, hnamed⟩
    exact ⟨hstructural, hapart, ⟨_, hregex, hwhole, hnamed⟩, hpopulated⟩

/-- A name that no rule has takes no rule away. -/
theorem not_reaches_of_free (h : g.compile = .ok c) {free : String}
    (hfree : ∀ r ∈ g.rules, r.name ≠ free) (name : String) : ¬g.Reaches name free := by
  intro hreach
  obtain ⟨r, hr, hname⟩ := (valid_of_compile h).defined.exists_rule hreach
  exact hfree r hr hname

/-- A rule that qualifies still does where another name is excluded, unless it reaches this name. -/
theorem Qualifies.exclude_other {r : Rule} {groups : List (Option Span)}
    (h : g.Qualifies text exclude r groups) {other : String} (hother : ¬g.Reaches r.name other) :
    g.Qualifies text other r groups :=
  { h with apart := hother }

end Grammar

namespace CompiledGrammar

section

variable {cr : CompiledRule}

theorem tried_eq_some_iff (h : g.compile = .ok c) (hcr : cr ∈ c.rules) {e : Explanation} :
    (if c.tries exclude cr then cr.explanation? text else none) = some e ↔
      cr.rule = e.rule ∧ g.Qualifies text exclude cr.rule e.groups := by
  rw [Grammar.qualifies_iff h hcr, Option.ite_none_right_eq_some,
    CompiledRule.explanation?_eq_some_iff]
  exact and_left_comm

theorem tried_eq_none_iff (h : g.compile = .ok c) (hcr : cr ∈ c.rules) :
    (if c.tries exclude cr then cr.explanation? text else none) = none ↔
      ∀ groups, ¬g.Qualifies text exclude cr.rule groups := by
  rw [Option.eq_none_iff_forall_ne_some]
  simp only [ne_eq, tried_eq_some_iff h hcr]
  exact ⟨fun hnone groups hgroups => hnone ⟨cr.rule, groups⟩ ⟨rfl, hgroups⟩,
    fun hnone e he => hnone e.groups he.2⟩

end

/-- A text is explained by the first rule that qualifies. -/
theorem explain_eq_some_iff (h : g.compile = .ok c) {e : Explanation} :
    c.explain text exclude = some e ↔ ∃ front back, g.rules = front ++ e.rule :: back ∧
      g.Qualifies text exclude e.rule e.groups ∧
        ∀ r ∈ front, ∀ groups, ¬g.Qualifies text exclude r groups := by
  obtain ⟨order, hc⟩ := Grammar.exists_order_of_compile h
  rw [explain_eq_findSome?, List.findSome?_eq_some_iff, ← hc.rules_eq]
  constructor
  · rintro ⟨front, cr, back, hrules, htried, hfront⟩
    have hmem : ∀ {x}, x ∈ front ++ cr :: back → x ∈ c.rules := fun hx => hrules ▸ hx
    obtain ⟨hrule, hqualifies⟩ := (tried_eq_some_iff h (hmem (by simp))).1 htried
    refine ⟨front.map CompiledRule.rule, back.map CompiledRule.rule, ?_, hrule ▸ hqualifies, ?_⟩
    · rw [hrules, List.map_append, List.map_cons, hrule]
    · rw [List.forall_mem_map]
      exact fun x hx => (tried_eq_none_iff h (hmem (by simp [hx]))).1 (hfront x hx)
  · rintro ⟨front, back, hrules, hqualifies, hfront⟩
    obtain ⟨front, rest, hc, rfl, hrest⟩ := List.map_eq_append_iff.1 hrules
    obtain ⟨cr, back, rfl, hrule, rfl⟩ := List.map_eq_cons_iff.1 hrest
    have hmem : ∀ {x}, x ∈ front ++ cr :: back → x ∈ c.rules := fun hx => hc ▸ hx
    refine ⟨front, cr, back, hc, ?_, fun x hx => ?_⟩
    · exact (tried_eq_some_iff h (hmem (by simp))).2 ⟨hrule, hrule ▸ hqualifies⟩
    · exact (tried_eq_none_iff h (hmem (by simp [hx]))).2 (hfront _ (List.mem_map_of_mem hx))

/-- A text has no explanation if and only if no rule qualifies. -/
theorem explain_eq_none_iff (h : g.compile = .ok c) :
    c.explain text exclude = none ↔
      ∀ r ∈ g.rules, ∀ groups, ¬g.Qualifies text exclude r groups := by
  obtain ⟨order, hc⟩ := Grammar.exists_order_of_compile h
  rw [explain_eq_findSome?, List.findSome?_eq_none_iff, ← hc.rules_eq, List.forall_mem_map]
  exact forall₂_congr fun cr hcr => tried_eq_none_iff h hcr

/-- A text is explained by the first rule, in the order of declaration, that qualifies, and it has
no explanation if and only if no rule does. Here the pattern of a rule is found in a text if and only
if it matches the whole of it. So the explanation with no name excluded stands where a name is
excluded that its rule does not reach, and no text has an explanation for the sake of an excluded
name only. -/
theorem exclusion_skips_referrers (h : g.compile = .ok c) :
    (∀ text exclude,
      (∀ e, c.explain text exclude = some e ↔ ∃ front back, g.rules = front ++ e.rule :: back ∧
        g.Qualifies text exclude e.rule e.groups ∧
          ∀ r ∈ front, ∀ groups, ¬g.Qualifies text exclude r groups) ∧
      (c.explain text exclude = none ↔
        ∀ r ∈ g.rules, ∀ groups, ¬g.Qualifies text exclude r groups)) ∧
    (∀ r ∈ g.rules, r.description.isLiteral = false →
      ∃ re, Regex.compile (Grammar.anchored (g.groupPatternOf r)) = .ok re ∧ ∀ text,
        re.WholeOnly text ∧ ((∃ groups, re.named r.description.groupNames text = some groups) ↔
          re.MatchesWhole text)) ∧
    ∀ text exclude free, (∀ r ∈ g.rules, r.name ≠ free) →
      (∀ e, c.explain text free = some e → ¬g.Reaches e.rule.name exclude →
        c.explain text exclude = some e) ∧
      (c.explain text free = none → c.explain text exclude = none) := by
  refine ⟨fun text exclude => ⟨fun e => explain_eq_some_iff h, explain_eq_none_iff h⟩, ?_, ?_⟩
  · intro r hr hstructural
    obtain ⟨order, hc⟩ := Grammar.exists_order_of_compile h
    rw [← hc.rules_eq] at hr
    obtain ⟨cr, hcr, rfl⟩ := List.mem_map.1 hr
    have hregex := Grammar.compile_groupPatternOf h hcr
    refine ⟨cr.groups, hregex, fun text => ?_⟩
    have hwhole := Grammar.wholeOnly_of_compile h hcr hstructural text
    exact ⟨hwhole, Regex.isSome_named_iff hregex hwhole _⟩
  · intro text exclude free hfree
    have hunrestricted : ∀ {r groups}, g.Qualifies text exclude r groups →
        g.Qualifies text free r groups :=
      fun hr => hr.exclude_other (Grammar.not_reaches_of_free h hfree _)
    constructor
    · intro e he hapart
      obtain ⟨front, back, hrules, hqualifies, hfront⟩ := (explain_eq_some_iff h).1 he
      exact (explain_eq_some_iff h).2 ⟨front, back, hrules, hqualifies.exclude_other hapart,
        fun r hr groups hgroups => hfront r hr groups (hunrestricted hgroups)⟩
    · intro hnone
      exact (explain_eq_none_iff h).2 fun r hr groups hgroups =>
        (explain_eq_none_iff h).1 hnone r hr groups (hunrestricted hgroups)

theorem exclusion_skips_referrers_detour : ∃ c e, Grammar.detour.compile = .ok c ∧
    c.explain "ab" "" = some e ∧ e.rule.name = "line" ∧ c.explain "ab" "line" = some e ∧
      c.explain "a, b" "" = none ∧ c.explain "a, b" "word" = none := by
  have hok : Grammar.detour.compile.toOption.any fun c =>
      (c.explain "ab" "").any (·.rule.name == "line") && (c.explain "a, b" "").isNone := by
    decide +kernel
  obtain ⟨c, hc, hexplain⟩ := Grammar.exists_ok_of_any hok
  obtain ⟨hline, hnone⟩ := (Bool.and_eq_true _ _).mp hexplain
  obtain ⟨e, he, hname⟩ := (Option.any_eq_true _ _).1 hline
  have hname : e.rule.name = "line" := eq_of_beq hname
  have hnone : c.explain "a, b" "" = none := Option.isNone_iff_eq_none.1 hnone
  have hfree : ∀ r ∈ Grammar.detour.rules, r.name ≠ "" := by decide
  obtain ⟨-, -, hother⟩ := exclusion_skips_referrers hc
  refine ⟨c, e, hc, he, hname, (hother "ab" "line" "" hfree).1 e he ?_, hnone,
    (hother "a, b" "word" "" hfree).2 hnone⟩
  rw [hname]
  exact (Grammar.valid_of_compile hc).acyclic "line"

end CompiledGrammar

end PatternGrammar
