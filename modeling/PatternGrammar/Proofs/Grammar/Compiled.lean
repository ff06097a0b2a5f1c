import Mathlib.Data.List.Perm.Subperm
import PatternGrammar.Grammar.Compiled
import PatternGrammar.Proofs.Grammar.Order

/-!
# What compiling a grammar gives

A grammar that compiles has rules with different names, and an order of these names in which
references only go to the front. The compiled rules are the rules of the grammar, each with two
regular expressions that were compiled (`Grammar.exists_order_of_compile`).
-/

namespace PatternGrammar

namespace Grammar

variable {g : Grammar} {c : CompiledGrammar}

/-! ## Names of rules -/

theorem not_mem_of_firstDuplicate? {seen names : List String}
    (h : firstDuplicate? seen names = none) :
    names.Nodup ∧ ∀ name ∈ names, name ∉ seen := by
  induction names generalizing seen with
  | nil => simp
  | cons name names ih =>
    rw [firstDuplicate?] at h
    split at h
    · simp at h
    · rename_i hseen
      obtain ⟨hnodup, hrest⟩ := ih h
      refine ⟨List.nodup_cons.2 ⟨fun hmem => hrest name hmem List.mem_cons_self, hnodup⟩, ?_⟩
      intro n hn
      rcases List.mem_cons.1 hn with rfl | hn
      · simpa using hseen
      · exact fun hmem => hrest n hn (List.mem_cons_of_mem _ hmem)

/-- Where names are different, a name stands for the rule that has it. -/
theorem get?_of_mem (h : (g.rules.map Rule.name).Nodup) {r : Rule} (hr : r ∈ g.rules) :
    g.get? r.name = some r := by
  unfold get?
  generalize g.rules = rules at h hr
  induction rules with
  | nil => simp at hr
  | cons first rules ih =>
    rw [List.map_cons, List.nodup_cons] at h
    rcases List.mem_cons.1 hr with rfl | hr
    · simp
    · have hne : first.name ≠ r.name := by
        intro heq
        exact h.1 (heq ▸ List.mem_map_of_mem hr)
      rw [List.find?_cons_of_neg (by simpa using hne)]
      exact ih h.2 hr

/-! ## Compiling rule by rule -/

theorem compilePattern_eq_ok {r : Rule} {pattern : String} {re : Regex}
    (h : compilePattern r pattern = .ok re) : Regex.compile pattern = .ok re := by
  unfold compilePattern at h
  split at h
  · rename_i hre
    rw [hre, Except.ok.inj h]
  · simp at h

/-- What compiling one rule and those after it comes down to. -/
theorem compileRules_cons {r : Rule} {rs : List Rule} {memo memo' : Memo}
    {rules : List CompiledRule} (h : compileRules g (r :: rs) memo = (.ok rules, memo')) :
    ∃ pattern groupPattern matcher groups rest, ∃ memo₁ memo₂ : Memo,
      expandRule g r memo = (.ok pattern, memo₁) ∧
      expandGroups g r memo₁ = (.ok groupPattern, memo₂) ∧
      Regex.compile pattern = .ok matcher ∧
      Regex.compile (anchored groupPattern) = .ok groups ∧
      compileRules g rs memo₂ = (.ok rest, memo') ∧
      rules = ⟨r, pattern, matcher, groupPattern, groups, []⟩ :: rest := by
  rw [compileRules] at h
  split at h
  · simp at h
  · rename_i pattern memo₁ hpattern
    split at h
    · simp at h
    · rename_i groupPattern memo₂ hgroups
      split at h
      · simp at h
      · simp at h
      · rename_i matcher groups hmatcher hanchored
        split at h
        · simp at h
        · rename_i rest memo₃ hrest
          obtain ⟨hrules, rfl⟩ := Prod.mk.inj h
          exact ⟨pattern, groupPattern, matcher, groups, rest, memo₁, memo₂, hpattern, hgroups,
            compilePattern_eq_ok hmatcher, compilePattern_eq_ok hanchored, hrest,
            (Except.ok.inj hrules).symm⟩

/-- The regular expressions of a compiled rule were compiled from its patterns. -/
def CompiledFrom (r : CompiledRule) : Prop :=
  Regex.compile r.pattern = .ok r.matcher ∧ Regex.compile (anchored r.groupPattern) = .ok r.groups

theorem compileRules_eq_ok {rs : List Rule} {memo memo' : Memo} {rules : List CompiledRule}
    (h : compileRules g rs memo = (.ok rules, memo')) (hrs : ∀ r ∈ rs, g.get? r.name = some r)
    (hmemo : g.Ordered memo.names) :
    rules.map CompiledRule.rule = rs ∧ (∀ r ∈ rules, CompiledFrom r) ∧ g.Ordered memo'.names ∧
      memo.names ⊆ memo'.names ∧ ∀ r ∈ rs, r.name ∈ memo'.names := by
  induction rs generalizing memo rules with
  | nil =>
    rw [compileRules] at h
    obtain ⟨hrules, rfl⟩ := Prod.mk.inj h
    obtain rfl := Except.ok.inj hrules
    exact ⟨rfl, by simp, hmemo, List.Subset.refl _, by simp⟩
  | cons r rs ih =>
    obtain ⟨pattern, groupPattern, matcher, groups, rest, memo₁, memo₂, hpattern, hgroups, hmatcher,
      hanchored, hrest, rfl⟩ := compileRules_cons h
    obtain ⟨hmemo₁, -, hsub₁, hdone₁⟩ :=
      expandRule_keeps (hrs r List.mem_cons_self) memo hmemo (by simp)
    rw [hpattern] at hmemo₁ hsub₁ hdone₁
    obtain ⟨hmemo₂, -, hsub₂, -⟩ := expandGroups_keeps r memo₁ hmemo₁ (by simp)
    rw [hgroups] at hmemo₂ hsub₂
    obtain ⟨hrules, hcompiled, hmemo', hsub', hnames⟩ :=
      ih hrest (fun r hr => hrs r (List.mem_cons_of_mem _ hr)) hmemo₂
    have hsub := List.Subset.trans hsub₁ (List.Subset.trans hsub₂ hsub')
    refine ⟨by rw [List.map_cons, hrules], ?_, hmemo', hsub, ?_⟩
    · intro r' hr'
      rcases List.mem_cons.1 hr' with rfl | hr'
      · exact ⟨hmatcher, hanchored⟩
      · exact hcompiled r' hr'
    · intro r' hr'
      rcases List.mem_cons.1 hr' with rfl | hr'
      · exact hsub' (hsub₂ (hdone₁ pattern rfl List.mem_cons_self))
      · exact hnames r' hr'

/-! ## Compiled grammars -/

/-- The compiled grammar has the rules of the grammar, with different names and with regular
expressions that were compiled, and `order` is an order of their names in which references only go
to the front. -/
structure CompilesTo (g : Grammar) (c : CompiledGrammar) (order : List String) : Prop where
  nodup : (g.rules.map Rule.name).Nodup
  rules_eq : c.rules.map CompiledRule.rule = g.rules
  compiled : ∀ r ∈ c.rules, CompiledFrom r
  ordered : g.Ordered order
  mem_order : ∀ r ∈ g.rules, r.name ∈ order

/-- What compiling a grammar comes down to. -/
theorem exists_rules_of_compile (h : g.compile = .ok c) :
    (g.rules.map Rule.name).Nodup ∧ ∃ rules, ∃ memo : Memo,
      compileRules g g.rules [] = (.ok rules, memo) ∧
        c.rules = rules.map fun r => { r with ancestors := g.ancestors r.rule.name } := by
  unfold compile compileWithMemo at h
  split at h
  · simp at h
  · split at h
    · simp at h
    · rename_i hdup
      split at h
      · simp at h
      · rename_i rules memo hrules
        split at h
        · simp at h
        · rename_i first others hancestors
          obtain rfl := Except.ok.inj h
          exact ⟨(not_mem_of_firstDuplicate? hdup).1, rules, memo, hrules, hancestors.symm⟩

theorem exists_order_of_compile (h : g.compile = .ok c) : ∃ order, g.CompilesTo c order := by
  obtain ⟨hnodup, rules, memo, hrules, hc⟩ := exists_rules_of_compile h
  obtain ⟨hrules, hcompiled, hordered, -, hnames⟩ :=
    compileRules_eq_ok hrules (fun r hr => get?_of_mem hnodup hr) .nil
  refine ⟨memo.names, hnodup, ?_, ?_, hordered, hnames⟩
  · rw [hc, List.map_map]
    exact hrules
  · intro r hr
    rw [hc] at hr
    obtain ⟨r', hr', rfl⟩ := List.mem_map.1 hr
    exact hcompiled r' hr'

namespace CompilesTo

variable {order : List String}

theorem rule_mem (h : g.CompilesTo c order) {r : CompiledRule} (hr : r ∈ c.rules) :
    r.rule ∈ g.rules := by
  rw [← h.rules_eq]
  exact List.mem_map_of_mem hr

/-- There are no more different names of rules than rules. -/
theorem length_le_of_nodup {names : List String} (hnodup : names.Nodup)
    (hnames : ∀ name ∈ names, ∃ r ∈ g.rules, r.name = name) : names.length ≤ g.rules.length := by
  have hsub : names ⊆ g.rules.map Rule.name := by
    intro name hname
    obtain ⟨r, hr, rfl⟩ := hnames name hname
    exact List.mem_map_of_mem hr
  have := (hnodup.subperm hsub).length_le
  rwa [List.length_map] at this

theorem length_order_le (h : g.CompilesTo c order) : order.length ≤ g.rules.length := by
  refine length_le_of_nodup h.ordered.nodup fun name hname => ?_
  obtain ⟨r, hr⟩ := h.ordered.exists_rule name hname
  exact ⟨r, List.mem_of_find?_eq_some hr, name_of_get? hr⟩

/-- A rule comes after the rules that it refers to. -/
theorem rank_lt (h : g.CompilesTo c order) {r : CompiledRule} (hr : r ∈ c.rules) {ref : String}
    (href : ref ∈ r.rule.description.references) :
    order.idxOf ref < order.idxOf r.rule.name :=
  h.ordered.rank_lt (h.mem_order _ (h.rule_mem hr)) (get?_of_mem h.nodup (h.rule_mem hr)) href

theorem rank_lt_length (h : g.CompilesTo c order) {r : CompiledRule} (hr : r ∈ c.rules) :
    order.idxOf r.rule.name < g.rules.length :=
  Nat.lt_of_lt_of_le (List.idxOf_lt_length_of_mem (h.mem_order _ (h.rule_mem hr)))
    h.length_order_le

end CompilesTo

/-! ## A small grammar -/

/-- A result of which something holds is there. -/
theorem exists_ok_of_any {ε α : Type} {result : Except ε α} {p : α → Bool}
    (h : result.toOption.any p) : ∃ a, result = .ok a ∧ p a := by
  cases result with
  | error e => simp [Except.toOption] at h
  | ok a => exact ⟨a, rfl, h⟩

/-- Two keys with an equals sign between them. -/
def pairs : Grammar :=
  ⟨[⟨"pair", .composition [.name "key", .literal "=", .name "key"]⟩, ⟨"key", .literal "[a-z]"⟩]⟩

theorem exists_compile_pairs : ∃ c, pairs.compile = .ok c := by
  have hok : pairs.compile.toOption.any fun _ => true := by decide +kernel
  obtain ⟨c, hc, -⟩ := exists_ok_of_any hok
  exact ⟨c, hc⟩

end Grammar

namespace CompiledGrammar

variable {c : CompiledGrammar} {name : String} {r : CompiledRule}

theorem mem_of_find? (h : c.find? name = some r) : r ∈ c.rules :=
  List.mem_of_find?_eq_some h

theorem name_of_find? (h : c.find? name = some r) : r.rule.name = name := by
  simpa using List.find?_some h

end CompiledGrammar

end PatternGrammar
