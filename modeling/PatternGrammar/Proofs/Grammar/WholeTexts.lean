import PatternGrammar.Proofs.Grammar.Groups

/-!
# Whole texts

A compiled rule has two patterns, which are built apart from each other: the plain one, by which its
matches are found, and the one with named groups, by which texts are explained. The second one has
to match a whole text, and its groups have to take part. For a text that is not empty both come to
the same: the rule explains the text if and only if its plain pattern matches the whole of it.

A choice that explains a text, which may be empty, reports the first of its alternatives whose plain
pattern matches the whole text.

Main results:

* `CompiledGrammar.explains_iff_matchesWhole`: when a rule explains a text.
* `CompiledGrammar.takes_first_match`: which alternative of a choice takes the text.
-/

namespace PatternGrammar

open Description (Degenerate ofBounds?_eq_none_iff)
open PatternGrammar.Text (Span wholeSpan)

variable {bodies : List String} {res : List Regex}

namespace CompiledRule

variable {c : CompiledGrammar} {cr : CompiledRule} {text : String} {groups : List (Option Span)}

/-- A rule explains a text if its pattern with named groups matches and the groups that are needed
take part. -/
theorem exists_attempt_iff : (∃ groups, cr.attempt text = .explains groups) ↔
    ∃ groups, cr.groups.named cr.rule.description.groupNames text = some groups ∧
      cr.rule.description.groupsPopulated groups :=
  exists_congr fun _ => CompiledGrammar.attempt_eq_explains_iff

theorem not_explains_of_degenerate (hdegenerate : cr.rule.description.isDegenerate) :
    ¬∃ groups, cr.attempt text = .explains groups := by
  rw [exists_attempt_iff]
  rintro ⟨groups, hnamed, hpopulated⟩
  obtain ⟨t, -, rfl⟩ := Option.map_eq_some_iff.1 hnamed
  have hnames : cr.rule.description.groupNames = [] := by
    simp [Description.groupNames, Description.groupCount, hdegenerate]
  rw [hnames] at hpopulated
  unfold Description.groupsPopulated at hpopulated
  split at hpopulated <;> simp at hpopulated

namespace Assembled

theorem wrappable_nameParts (h : cr.Assembled c bodies res) :
    ∀ part ∈ Regex.nameParts (namedBodies bodies), Regex.Wrappable part.1 part.2 :=
  List.forall_mem_map.2 (wrappable_namedBodies h.compiled h.line)

/-- The pattern with named groups matches whole texts, as the plain pattern does. -/
theorem spans_groups (h : cr.Assembled c bodies res) (hreadable : cr.rule.description.Readable)
    (hliteral : cr.rule.description.isLiteral = false) {text : Array Char} {i j : ℕ} :
    cr.groups.pattern.Spans text i j ↔
      i = 0 ∧ j = text.size ∧ cr.matcher.pattern.Spans text i j := by
  have hgroups := h.groups
  have hmatcher := h.matcher
  cases hdescription : cr.rule.description with
  | repetition rule min max =>
    obtain ⟨b, r, rfl, -, -, hinner, hwrap⟩ := h.exists_inner hdescription
    rw [hdescription] at hgroups hmatcher
    cases hq : Quantifier.ofBounds? min max with
    | none =>
      -- both patterns are empty
      have hempty : (Description.repetition rule min max).assembleGroups [b] =
          (Description.repetition rule min max).assemble [b] := by
        simp [Description.assemble, Description.assembleGroups, hq]
      rw [hempty] at hgroups
      exact Regex.spans_anchored hgroups (toList_anchored _) hmatcher
        (Description.newline_not_mem_assemble h.line)
    | some q =>
      have hordered := Description.ordered_of_ofBounds? hq
      rw [Regex.spans_anchored_repeated hgroups (by
          rw [toList_anchored, Description.toList_assembleGroups_repetition hq]) hordered hinner hwrap,
        Regex.spans_repeated hmatcher (Description.toList_assemble_repetition hq rule b) hordered
          hinner (h.line b List.mem_cons_self)]
  | choice alternatives =>
    have hbodies : bodies ≠ [] := by
      rw [← List.length_pos_iff_ne_nil, h.length_eq, hdescription, Description.components,
        List.length_map, List.length_pos_iff_ne_nil]
      exact CompiledGrammar.ne_nil_of_readable (hdescription ▸ hreadable)
    rw [hdescription] at hgroups hmatcher
    rw [Regex.spans_anchored_barred hgroups (by
        rw [toList_anchored, Description.toList_assembleGroups_choice])
        (by simpa [Regex.nameParts, namedBodies] using hbodies) h.wrappable_nameParts
        (ownRegex_namedBodies h.compiled),
      Regex.spans_barred hmatcher (Description.toList_assemble_choice _) hbodies h.compiled h.line]
  | literal pattern =>
    rw [hdescription] at hliteral
    simp [Description.isLiteral] at hliteral
  | composition parts =>
    rw [hdescription] at hgroups hmatcher
    rw [Regex.spans_anchored_row hgroups (by
        rw [toList_anchored, Description.toList_assembleGroups_composition])
        h.wrappable_nameParts (ownRegex_namedBodies h.compiled),
      Regex.spans_row hmatcher (Description.toList_assemble_composition _) h.compiled h.line]

/-- Where the pattern with named groups matches a text that is not empty, the groups that are needed
take part. -/
theorem populated (h : cr.Assembled c bodies res) (hreadable : cr.rule.description.Readable)
    (hliteral : cr.rule.description.isLiteral = false)
    (hdegenerate : cr.rule.description.isDegenerate = false) (htext : text ≠ "")
    (hnamed : cr.groups.named cr.rule.description.groupNames text = some groups) :
    cr.rule.description.groupsPopulated groups := by
  cases hdescription : cr.rule.description with
  | repetition rule min max =>
    obtain ⟨b, r, rfl, -, -, -, hwrap⟩ := h.exists_inner hdescription
    obtain ⟨q, hq⟩ : ∃ q, Quantifier.ofBounds? min max = some q := by
      rw [hdescription, Description.isDegenerate] at hdegenerate
      exact Option.isSome_iff_exists.1 (by simpa using hdegenerate)
    have hsource : (Grammar.anchored (cr.rule.description.assembleGroups [b])).toList =
        Regex.Reader.anchor (Regex.wrap (some (groupName 0)) b.toList ++ q.text.toList) := by
      rw [toList_anchored, hdescription, Description.toList_assembleGroups_repetition hq]
    rw [Description.groupNames_eq hdegenerate h.length_eq] at hnamed
    obtain ⟨m, rfl⟩ := Regex.named_repeated h.groups hsource
      (Description.ordered_of_ofBounds? hq) hwrap htext hnamed
    rfl
  | choice alternatives =>
    obtain ⟨front, back, -, rfl⟩ := h.taken hdescription
      (CompiledGrammar.ne_nil_of_readable (hdescription ▸ hreadable)) hnamed
    simp [Description.groupsPopulated]
  | literal pattern =>
    rw [hdescription] at hliteral
    simp [Description.isLiteral] at hliteral
  | composition parts =>
    obtain ⟨ranges, -, hlength, rfl⟩ := h.tiles hdescription hnamed
    rw [hdescription] at hreadable
    have htwo : 2 ≤ parts.length := hreadable.1
    have hne : ranges ≠ [] := by
      rintro rfl
      simp at hlength
      omega
    simp [Description.groupsPopulated, hne]

/-- A repetition without a quantifier matches the empty text only. -/
theorem not_matchesWhole_of_degenerate (h : cr.Assembled c bodies res) (htext : text ≠ "")
    (hdegenerate : cr.rule.description.isDegenerate) : ¬cr.matcher.MatchesWhole text := by
  have hempty : cr.rule.description.assemble bodies = "" := by
    cases hdescription : cr.rule.description with
    | repetition rule min max =>
      rw [hdescription, Description.isDegenerate, Option.isNone_iff_eq_none] at hdegenerate
      exact Description.assemble_degenerate (ofBounds?_eq_none_iff.1 hdegenerate) rule
    | _ =>
      rw [hdescription] at hdegenerate
      simp [Description.isDegenerate] at hdegenerate
  have hmatcher := h.matcher
  rw [hempty] at hmatcher
  rw [Regex.MatchesWhole, Regex.canMatch_iff (Regex.program_of_compile hmatcher),
    Grammar.spans_empty hmatcher]
  intro hlength
  exact htext (by simpa using hlength.symm)

theorem exists_attempt_iff_matchesWhole (h : cr.Assembled c bodies res)
    (hreadable : cr.rule.description.Readable) (hliteral : cr.rule.description.isLiteral = false)
    (htext : text ≠ "") :
    (∃ groups, cr.attempt text = .explains groups) ↔ cr.matcher.MatchesWhole text := by
  by_cases hdegenerate : cr.rule.description.isDegenerate
  · exact iff_of_false (not_explains_of_degenerate hdegenerate)
      (h.not_matchesWhole_of_degenerate htext hdegenerate)
  · rw [Bool.not_eq_true] at hdegenerate
    obtain ⟨hwhole, hsame⟩ := Regex.wholeOnly_of_spans (s := text)
      (Regex.program_of_compile h.groups) (Regex.program_of_compile h.matcher)
      fun i j => h.spans_groups hreadable hliteral
    rw [← hsame, ← Regex.isSome_named_iff h.groups hwhole, exists_attempt_iff]
    refine exists_congr fun groups => and_iff_left_of_imp fun hnamed => ?_
    exact h.populated hreadable hliteral hdegenerate htext hnamed

end Assembled

end CompiledRule

namespace CompiledGrammar

variable {g : Grammar} {c : CompiledGrammar} {cr : CompiledRule} {source text : String}

/-- The plain pattern of a rule between anchors finds a whole text where it matches the text on its
own. -/
theorem findsWhole_anchored_iff (hparse : Grammar.parse source = .ok g)
    (hcompile : g.compile = .ok c) (hcr : cr ∈ c.rules) {re : Regex}
    (hre : Regex.compile (Grammar.anchored cr.pattern) = .ok re) :
    re.FindsWhole text ↔ cr.matcher.MatchesWhole text := by
  obtain ⟨order, hc⟩ := Grammar.exists_order_of_compile hcompile
  have hmatcher := (hc.compiled cr hcr).1
  have hline := Grammar.newline_not_mem_pattern (Grammar.readable_of_parse hparse) hcompile cr hcr
  obtain ⟨hwhole, hsame⟩ := Regex.wholeOnly_of_spans (s := text)
    (Regex.program_of_compile hre) (Regex.program_of_compile hmatcher)
    fun i j => Regex.spans_anchored hre (toList_anchored _) hmatcher hline
  rw [Regex.findsWhole_iff hre hwhole, hsame]

/-- A rule that is no literal explains a text that is not empty if and only if its plain pattern
matches the whole text, on its own and between anchors. A repetition without a quantifier does
neither. The literals of the rule have to be regular expressions on their own. -/
theorem explains_iff_matchesWhole (hparse : Grammar.parse source = .ok g)
    (hcompile : g.compile = .ok c) (hcr : cr ∈ c.rules)
    (hliteral : cr.rule.description.isLiteral = false)
    (hvalid : ∀ part ∈ cr.rule.description.components, part.Valid) (htext : text ≠ "") :
    ((∃ groups, cr.attempt text = .explains groups) ↔ cr.matcher.MatchesWhole text) ∧
    (∀ re, Regex.compile (Grammar.anchored cr.pattern) = .ok re →
      ((∃ groups, cr.attempt text = .explains groups) ↔ re.FindsWhole text)) ∧
    ∀ rule min max, cr.rule.description = .repetition rule min max → Degenerate min max →
      (¬∃ groups, cr.attempt text = .explains groups) ∧ ¬cr.matcher.MatchesWhole text := by
  have hreadable := readable_of_mem hparse hcompile hcr
  obtain ⟨bodies, res, hassembled⟩ := exists_assembled hparse hcompile hcr hvalid
  have hiff := hassembled.exists_attempt_iff_matchesWhole hreadable hliteral htext
  refine ⟨hiff, fun re hre => ?_, fun rule min max hrepetition hbounds => ?_⟩
  · rw [hiff, findsWhole_anchored_iff hparse hcompile hcr hre]
  · have hdegenerate : cr.rule.description.isDegenerate := by
      rw [hrepetition, Description.isDegenerate, ofBounds?_eq_none_iff.2 hbounds]
      rfl
    exact ⟨CompiledRule.not_explains_of_degenerate hdegenerate,
      hassembled.not_matchesWhole_of_degenerate htext hdegenerate⟩

/-- Digits with a sign in front of them that may be left out. -/
def signed : Grammar :=
  ⟨[⟨"number", .composition [.name "sign", .name "digits", .literal ";|$"]⟩,
    ⟨"sign", .repetition "minus" 0 (some 1)⟩, ⟨"digits", .repetition "digit" 1 none⟩,
    ⟨"minus", .literal "-"⟩, ⟨"digit", .literal "[0-9]"⟩]⟩

theorem explains_iff_matchesWhole_signed : ∃ c cr re,
    Grammar.parse signed.text = .ok signed ∧ signed.compile = .ok c ∧ cr ∈ c.rules ∧
    cr.rule.name = "number" ∧ cr.rule.description.isLiteral = false ∧
    (∀ part ∈ cr.rule.description.components, part.Valid) ∧
    Regex.compile (Grammar.anchored cr.pattern) = .ok re ∧
    cr.attempt "12" = .explains [some ⟨0, 0⟩, some ⟨0, 2⟩, some ⟨2, 2⟩] ∧
    cr.matcher.MatchesWhole "12" ∧ re.FindsWhole "12" ∧ cr.attempt "1-2" = .noMatch ∧
    ¬cr.matcher.MatchesWhole "1-2" := by
  have hparse : Grammar.parse signed.text = .ok signed := by decide +kernel
  have hok : signed.compile.toOption.any fun c => c.rules.any fun cr =>
      cr.rule.name = "number" ∧ cr.rule.description.isLiteral = false ∧
      (∀ part ∈ cr.rule.description.components, part.Valid) ∧
      (Regex.compile (Grammar.anchored cr.pattern)).toOption.isSome ∧
      cr.attempt "12" = .explains [some ⟨0, 0⟩, some ⟨0, 2⟩, some ⟨2, 2⟩] ∧
      cr.attempt "1-2" = .noMatch := by
    decide +kernel
  obtain ⟨c, hc, hok⟩ := Grammar.exists_ok_of_any hok
  obtain ⟨cr, hcr, hok⟩ := List.any_eq_true.1 hok
  obtain ⟨hname, hliteral, hvalid, hanchored, hexplains, hnot⟩ := of_decide_eq_true hok
  obtain ⟨re, hre, -⟩ := Grammar.exists_ok_of_any (p := fun _ => true) (by simpa using hanchored)
  have hdigits : "12" ≠ "" := by decide
  have hinside : "1-2" ≠ "" := by decide
  obtain ⟨hwhole, hfinds, -⟩ := explains_iff_matchesWhole hparse hc hcr hliteral hvalid hdigits
  obtain ⟨hother, -⟩ := explains_iff_matchesWhole hparse hc hcr hliteral hvalid hinside
  refine ⟨c, cr, re, hparse, hc, hcr, hname, hliteral, hvalid, hre, hexplains, hwhole.1 ⟨_, hexplains⟩,
    (hfinds re hre).1 ⟨_, hexplains⟩, hnot, fun hmatch => ?_⟩
  obtain ⟨groups, hgroups⟩ := hother.2 hmatch
  simp [hnot] at hgroups

/-! ## Choices -/

/-- The rule at this place in a row of names matches the whole text by its plain pattern. -/
def MatchesAt (c : CompiledGrammar) (names : List String) (text : String) (i : ℕ) : Prop :=
  ∃ name cr, names[i]? = some name ∧ c.find? name = some cr ∧ cr.matcher.MatchesWhole text

/-- This is the least place in a row of names at which a rule matches the whole text. -/
def FirstMatchAt (c : CompiledGrammar) (names : List String) (text : String) (i : ℕ) : Prop :=
  c.MatchesAt names text i ∧ ∀ j < i, ¬c.MatchesAt names text j

theorem matchesAt_iff {names : List String} {res : List Regex} {i : ℕ}
    (h : List.Forall₂ c.Component (names.map Part.name) res) :
    c.MatchesAt names text i ↔ ∃ r, res[i]? = some r ∧ r.MatchesWhole text := by
  rw [List.forall₂_map_left_iff] at h
  induction h generalizing i with
  | nil => simp [MatchesAt]
  | cons hfirst _ ih =>
    obtain ⟨cr, hcr, rfl⟩ := hfirst
    cases i with
    | zero => simp [MatchesAt, hcr]
    | succ i => simpa [MatchesAt] using ih

theorem firstMatchAt_of_component {names : List String} {front back : List Regex} {r : Regex}
    (h : List.Forall₂ c.Component (names.map Part.name) (front ++ r :: back))
    (hr : r.MatchesWhole text) (hfront : ∀ r' ∈ front, ¬r'.MatchesWhole text) :
    c.FirstMatchAt names text front.length := by
  refine ⟨(matchesAt_iff h).2 ⟨r, by simp, hr⟩, fun i hlt hi => ?_⟩
  obtain ⟨r', hr', hmatch⟩ := (matchesAt_iff h).1 hi
  rw [List.getElem?_append_left hlt] at hr'
  exact hfront r' (List.mem_of_getElem? hr') hmatch

/-- A choice that explains a text reports the first of its alternatives that matches the whole text:
one group takes the text, at the least place where the plain pattern of the alternative matches it,
and the others take no part. Between anchors the plain patterns find the text alike. -/
theorem takes_first_match (hparse : Grammar.parse source = .ok g) (hcompile : g.compile = .ok c)
    {exclude : String} {e : Explanation} (h : c.explain text exclude = some e)
    {alternatives : List String} (halternatives : e.rule.description = .choice alternatives) :
    (∃ front back, front + 1 + back = alternatives.length ∧
      e.groups = List.replicate front none ++ some (wholeSpan text) :: List.replicate back none ∧
      c.FirstMatchAt alternatives text front) ∧
    ∀ name ∈ alternatives, ∃ cr, c.find? name = some cr ∧
      ∀ re, Regex.compile (Grammar.anchored cr.pattern) = .ok re →
        (re.FindsWhole text ↔ cr.matcher.MatchesWhole text) := by
  obtain ⟨cr, hcr, hrule, -, -, hattempt⟩ := exists_rule_of_explain h
  rw [← hrule] at halternatives
  obtain ⟨bodies, res, hassembled⟩ :=
    exists_assembled hparse hcompile hcr (valid_of_choice halternatives)
  have hreadable := readable_of_mem hparse hcompile hcr
  have hcomponents := hassembled.components
  rw [halternatives, Description.components] at hcomponents
  rw [halternatives] at hreadable
  constructor
  · obtain ⟨front, r, back, rfl, hr, hnot, hgroups⟩ := hassembled.first_taken halternatives
      (ne_nil_of_readable hreadable) (named_of_attempt hattempt)
    refine ⟨front.length, back.length, ?_, hgroups, firstMatchAt_of_component hcomponents hr hnot⟩
    have hlength := hcomponents.length_eq
    rw [List.length_map, List.length_append, List.length_cons] at hlength
    omega
  · intro name hname
    have hreference : name ∈ cr.rule.description.references := by
      rw [halternatives]
      exact List.mem_filterMap.2 ⟨.name name, List.mem_map_of_mem hname, rfl⟩
    obtain ⟨cr', hcr'⟩ := Grammar.exists_find?_of_mem_references hcompile hcr hreference
    exact ⟨cr', hcr', fun re' hre' =>
      findsWhole_anchored_iff hparse hcompile (mem_of_find? hcr') hre'⟩

/-- The alternatives of an item overlap, and one of them stands there twice. -/
def overlapping : Grammar :=
  ⟨[⟨"item", .choice ["prefix", "word", "pair", "word"]⟩, ⟨"prefix", .literal "a|abc"⟩,
    ⟨"word", .literal "[a-z]+"⟩, ⟨"pair", .literal "ab|[a-z]{2}"⟩]⟩

theorem takes_first_match_overlapping : ∃ c e,
    Grammar.parse overlapping.text = .ok overlapping ∧ overlapping.compile = .ok c ∧
    c.explain "ab" "" = some e ∧
    e.rule.description = .choice ["prefix", "word", "pair", "word"] ∧
    e.groups = [none, some ⟨0, 2⟩, none, none] ∧
    c.FirstMatchAt ["prefix", "word", "pair", "word"] "ab" 1 := by
  have hparse : Grammar.parse overlapping.text = .ok overlapping := by decide +kernel
  have hexplain : overlapping.compile.toOption.any fun c =>
      (c.explain "ab" "").any fun e =>
        e.rule.description = .choice ["prefix", "word", "pair", "word"] ∧
        e.groups = [none, some ⟨0, 2⟩, none, none] := by
    decide +kernel
  obtain ⟨c, hc, hexplain⟩ := Grammar.exists_ok_of_any hexplain
  obtain ⟨e, he, hexplain⟩ := (Option.any_eq_true _ _).1 hexplain
  obtain ⟨halternatives, hgroups⟩ := of_decide_eq_true hexplain
  obtain ⟨⟨front, back, -, htaken, hfirst⟩, -⟩ := takes_first_match hparse hc he halternatives
  have hfront : front = 1 := by
    rw [hgroups] at htaken
    match front, htaken with
    | 0, htaken => simp at htaken
    | 1, _ => rfl
    | front + 2, htaken => simp [List.replicate_succ] at htaken
  exact ⟨c, e, hparse, hc, he, halternatives, hgroups, hfront ▸ hfirst⟩

end CompiledGrammar

end PatternGrammar
