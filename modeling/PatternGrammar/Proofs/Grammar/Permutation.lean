import PatternGrammar.Proofs.Grammar.Reach

/-!
# The order of declaration

Rules are expanded in the order of their declaration, and with them, on demand, those that they refer
to; what is in the memo, and where a fault comes up, depends on this order. What is compiled does not.
The rules of a grammar can be declared in any order: it compiles or it does not, each name has the
same patterns, and each name has the same referrers.

Everything that a grammar is compiled to is determined by the rule that each name stands for
(`Grammar.patternOf_congr`) and by which names refer to which (`Grammar.reaches_congr`). Where names
are different, neither depends on the order.

Main result: `Grammar.compile_perm`.
-/

namespace PatternGrammar

namespace CompiledGrammar

/-- The pattern with named groups of the rule with a name. -/
def groupPattern? (c : CompiledGrammar) (name : String) : Option String :=
  (c.find? name).map CompiledRule.groupPattern

end CompiledGrammar

namespace Grammar

variable {g g' : Grammar} {c : CompiledGrammar}

/-! ## What names stand for -/

/-- Where names are different, a name stands for the one rule that has it. -/
theorem get?_eq_some_iff (hnodup : (g.rules.map Rule.name).Nodup) {name : String} {r : Rule} :
    g.get? name = some r ↔ r ∈ g.rules ∧ r.name = name := by
  constructor
  · intro h
    exact ⟨List.mem_of_find?_eq_some h, name_of_get? h⟩
  · rintro ⟨hr, rfl⟩
    exact get?_of_mem hnodup hr

theorem get?_perm (h : g.rules.Perm g'.rules) (hnodup : (g.rules.map Rule.name).Nodup)
    (name : String) : g.get? name = g'.get? name := by
  have hnodup' : (g'.rules.map Rule.name).Nodup := (h.map Rule.name).nodup_iff.1 hnodup
  ext r
  rw [get?_eq_some_iff hnodup, get?_eq_some_iff hnodup', h.mem_iff]

theorem refers_congr (h : ∀ r, r ∈ g.rules ↔ r ∈ g'.rules) : g.Refers = g'.Refers := by
  funext name ref
  simp only [Refers, h]

/-- Which names reach which does not depend on the order of the rules. -/
theorem reaches_congr (h : ∀ r, r ∈ g.rules ↔ r ∈ g'.rules) : g.Reaches = g'.Reaches := by
  rw [Reaches, Reaches, refers_congr h]

/-! ## Patterns -/

theorem expandPlain_congr (h : ∀ name, g.get? name = g'.get? name) (depth : ℕ) (r : Rule) :
    g.expandPlain depth r = g'.expandPlain depth r := by
  induction depth generalizing r with
  | zero => rfl
  | succ depth ih =>
    have hsame : g.expandPlain depth = g'.expandPlain depth := funext ih
    rw [expandPlain, expandPlain]
    congr 2
    funext part
    cases part with
    | literal pattern => rfl
    | name name =>
      show ((g.get? name).map (g.expandPlain depth)).getD "" =
        ((g'.get? name).map (g'.expandPlain depth)).getD ""
      rw [h, hsame]

/-- The patterns of a rule are determined by what names stand for, and by the number of rules. -/
theorem patternOf_congr (h : ∀ name, g.get? name = g'.get? name)
    (hlength : g.rules.length = g'.rules.length) : g.patternOf = g'.patternOf := by
  funext r
  rw [patternOf, patternOf, hlength, expandPlain_congr h]

theorem groupPatternOf_congr (h : ∀ name, g.get? name = g'.get? name)
    (hlength : g.rules.length = g'.rules.length) : g.groupPatternOf = g'.groupPatternOf := by
  have hbody : g.bodyOf = g'.bodyOf := by
    funext part
    cases part with
    | literal pattern => rfl
    | name name =>
      show ((g.get? name).map g.patternOf).getD "" = ((g'.get? name).map g'.patternOf).getD ""
      rw [h, patternOf_congr h hlength]
  funext r
  rw [groupPatternOf, groupPatternOf, hbody]

/-- The compiled rule with a name has the patterns of the rule that the name stands for. -/
theorem patterns?_eq (h : g.compile = .ok c) (name : String) :
    c.pattern? name = (g.get? name).map g.patternOf ∧
      c.groupPattern? name = (g.get? name).map g.groupPatternOf := by
  obtain ⟨order, hc⟩ := exists_order_of_compile h
  have hget : g.get? name = (c.find? name).map CompiledRule.rule := by
    rw [get?, ← hc.rules_eq, List.find?_map]
    rfl
  rw [hget, CompiledGrammar.pattern?, CompiledGrammar.groupPattern?]
  cases hfind : c.find? name with
  | none => exact ⟨rfl, rfl⟩
  | some cr =>
    obtain ⟨hpattern, hgroups⟩ :=
      patterns_eq_of_compile h (CompiledGrammar.mem_of_find? hfind)
    exact ⟨congrArg some hpattern, congrArg some hgroups⟩

/-! ## Rules in another order -/

/-- The rules of a valid grammar can be declared in any order. -/
theorem Valid.perm (hvalid : g.Valid) (h : g.rules.Perm g'.rules) : g'.Valid := by
  have hget := get?_perm h hvalid.nodup
  have hlength := h.length_eq
  have hmem : ∀ r, r ∈ g.rules ↔ r ∈ g'.rules := fun r => h.mem_iff
  refine ⟨?_, ?_, ?_, ?_, ?_, ?_⟩
  · intro hnil
    rw [hnil] at h
    exact hvalid.rules_ne_nil h.eq_nil
  · exact (h.map Rule.name).nodup_iff.1 hvalid.nodup
  · intro r hr ref href
    obtain ⟨r', hr', hname⟩ := hvalid.defined r ((hmem r).2 hr) ref href
    exact ⟨r', (hmem r').1 hr', hname⟩
  · intro name
    rw [← reaches_congr hmem]
    exact hvalid.acyclic name
  · intro r hr
    rw [← patternOf_congr hget hlength]
    exact hvalid.pattern_ok r ((hmem r).2 hr)
  · intro r hr
    rw [← groupPatternOf_congr hget hlength]
    exact hvalid.groupPattern_ok r ((hmem r).2 hr)

/-- Two grammars with the same rules in any two orders: both compile or neither does, and if they do,
each name has the same patterns in both, and the same referrers. -/
theorem compile_perm (h : g.rules.Perm g'.rules) :
    ((∃ c, g.compile = .ok c) ↔ ∃ c', g'.compile = .ok c') ∧
      ∀ c c', g.compile = .ok c → g'.compile = .ok c' → ∀ name,
        c.pattern? name = c'.pattern? name ∧ c.groupPattern? name = c'.groupPattern? name ∧
          (c.referrers name).Perm (c'.referrers name) := by
  constructor
  · constructor
    · rintro ⟨c, hc⟩
      exact ((valid_of_compile hc).perm h).exists_compile_eq_ok
    · rintro ⟨c', hc'⟩
      exact ((valid_of_compile hc').perm h.symm).exists_compile_eq_ok
  · intro c c' hc hc' name
    have hget := get?_perm h (valid_of_compile hc).nodup
    have hlength := h.length_eq
    obtain ⟨hpattern, hgroups⟩ := patterns?_eq hc name
    obtain ⟨hpattern', hgroups'⟩ := patterns?_eq hc' name
    refine ⟨?_, ?_, ?_⟩
    · rw [hpattern, hpattern', hget, patternOf_congr hget hlength]
    · rw [hgroups, hgroups', hget, groupPatternOf_congr hget hlength]
    · classical
      rw [referrers_eq_filter hc, referrers_eq_filter hc', reaches_congr fun r => h.mem_iff]
      exact h.filter _

/-- Rules before and after what they refer to: the pattern of the key is expanded on demand in one
order, and is in the memo in the other. -/
theorem compile_perm_pairs : pairs.rules.Perm pairs.rules.reverse ∧ ∃ c c',
    pairs.compile = .ok c ∧ compile ⟨pairs.rules.reverse⟩ = .ok c' ∧
      c.pattern? "pair" = c'.pattern? "pair" ∧ c.groupPattern? "pair" = c'.groupPattern? "pair" ∧
        (c.referrers "key").Perm (c'.referrers "key") := by
  have hperm : pairs.rules.Perm pairs.rules.reverse := (List.reverse_perm pairs.rules).symm
  obtain ⟨hcompiles, hsame⟩ := @compile_perm pairs ⟨pairs.rules.reverse⟩ hperm
  obtain ⟨c, hc⟩ := exists_compile_pairs
  obtain ⟨c', hc'⟩ := hcompiles.1 ⟨c, hc⟩
  obtain ⟨hpattern, hgroups, -⟩ := hsame c c' hc hc' "pair"
  obtain ⟨-, -, hreferrers⟩ := hsame c c' hc hc' "key"
  exact ⟨hperm, c, c', hc, hc', hpattern, hgroups, hreferrers⟩

end Grammar

end PatternGrammar
