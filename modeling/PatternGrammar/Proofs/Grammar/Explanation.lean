import PatternGrammar.Grammar.Explanation
import PatternGrammar.Proofs.Grammar.Compiled
import PatternGrammar.Proofs.Regex.Spans

/-!
# Explanations of texts

What explains a text is a rule of the grammar that is no literal and does not reach the excluded
name (`CompiledGrammar.exists_rule_of_explain`). The groups that it reports are ranges of the text
between characters (`CompiledGrammar.exists_slice_of_explain`).
-/

namespace PatternGrammar.CompiledGrammar

open PatternGrammar.Text (Span slice?)

variable {c : CompiledGrammar} {text exclude : String} {e : Explanation}

theorem exists_rule_of_explainBy {rules : List CompiledRule} (h : explainBy text rules = some e) :
    ∃ r ∈ rules, r.rule = e.rule ∧ r.attempt text = .explains e.groups := by
  induction rules with
  | nil => simp [explainBy] at h
  | cons r rules ih =>
    rw [explainBy] at h
    split at h
    · rename_i groups hgroups
      obtain rfl := Option.some.inj h
      exact ⟨r, List.mem_cons_self, rfl, hgroups⟩
    · obtain ⟨r', hr', hrule, hattempt⟩ := ih h
      exact ⟨r', List.mem_cons_of_mem _ hr', hrule, hattempt⟩

/-- A text is explained by a rule of the grammar that is structural and does not reach the excluded
name. -/
theorem exists_rule_of_explain (h : c.explain text exclude = some e) :
    ∃ r ∈ c.rules, r.rule = e.rule ∧ e.rule.name ∉ c.ancestors exclude ∧
      e.rule.description.isLiteral = false ∧ r.attempt text = .explains e.groups := by
  obtain ⟨r, hr, hrule, hattempt⟩ := exists_rule_of_explainBy h
  obtain ⟨hmem, hcandidate⟩ := List.mem_filter.1 hr
  simp only [Bool.and_eq_true, Bool.not_eq_true', List.contains_eq_mem, decide_eq_false_iff_not,
    hrule] at hcandidate
  exact ⟨r, hmem, hrule, hcandidate.1, hcandidate.2, hattempt⟩

theorem named_of_attempt {r : CompiledRule} {groups : List (Option Span)}
    (h : r.attempt text = .explains groups) :
    r.groups.named r.rule.description.groupNames text = some groups := by
  unfold CompiledRule.attempt at h
  split at h
  · simp at h
  · rename_i groups' hnamed
    split at h
    · rw [hnamed, Attempt.explains.inj h]
    · simp at h

theorem populated_of_attempt {r : CompiledRule} {groups : List (Option Span)}
    (h : r.attempt text = .explains groups) : r.rule.description.groupsPopulated groups := by
  unfold CompiledRule.attempt at h
  split at h
  · simp at h
  · split at h
    · rename_i hpopulated
      rwa [← Attempt.explains.inj h]
    · simp at h

theorem attempt_eq_explains_iff {r : CompiledRule} {groups : List (Option Span)} :
    r.attempt text = .explains groups ↔
      r.groups.named r.rule.description.groupNames text = some groups ∧
        r.rule.description.groupsPopulated groups := by
  refine ⟨fun h => ⟨named_of_attempt h, populated_of_attempt h⟩, ?_⟩
  rintro ⟨hnamed, hpopulated⟩
  rw [CompiledRule.attempt, hnamed]
  exact if_pos hpopulated

/-- The groups that the rule of an explanation needs took part. -/
theorem populated_of_explain (h : c.explain text exclude = some e) :
    e.rule.description.groupsPopulated e.groups := by
  obtain ⟨r, -, hrule, -, -, hattempt⟩ := exists_rule_of_explain h
  rw [← hrule]
  exact populated_of_attempt hattempt

theorem groups_ne_nil_of_explain (h : c.explain text exclude = some e) : e.groups ≠ [] := by
  have hpopulated := populated_of_explain h
  unfold Description.groupsPopulated at hpopulated
  rintro hnil
  rw [hnil] at hpopulated
  split at hpopulated <;> simp at hpopulated

theorem length_groups_of_explain (h : c.explain text exclude = some e) :
    e.groups.length = e.rule.description.groupCount := by
  obtain ⟨r, -, hrule, -, -, hattempt⟩ := exists_rule_of_explain h
  obtain ⟨t, -, hgroups⟩ := Option.map_eq_some_iff.1 (named_of_attempt hattempt)
  rw [← hgroups, ← hrule, Description.groupNames, List.length_map, List.length_map,
    List.length_range]

theorem exists_slice_of_explain (hc : ∀ r ∈ c.rules, Grammar.CompiledFrom r)
    (h : c.explain text exclude = some e) {group : Span} (hgroup : some group ∈ e.groups) :
    ∃ t, slice? text group = some t := by
  obtain ⟨r, hr, -, -, -, hattempt⟩ := exists_rule_of_explain h
  exact Regex.exists_slice_of_mem_named (Regex.program_of_compile (hc r hr).2)
    (named_of_attempt hattempt) hgroup

end PatternGrammar.CompiledGrammar
