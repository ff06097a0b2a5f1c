import PatternGrammar.Proofs.Grammar.Validity

/-!
# What reaches a rule

A compiled rule comes with the names that are met on the way back from it: those of the rules that
refer to it, of the rules that refer to these, and so on, by a search that goes on from each name
once. They are the names of the rules that reach it through references, over one reference or over
several. Since references do not go round in a grammar that compiles, no rule is among its own
referrers, nor are two rules among those of each other.

Main results: `Grammar.mem_ancestors_iff` and `Grammar.referrers_exact`.
-/

namespace PatternGrammar

/-- What a description refers to by the check of one name is what is in the row of its references. -/
theorem Description.refersTo_iff {d : Description} {name : String} :
    d.refersTo name ↔ name ∈ d.references := by
  cases d with
  | repetition rule min max =>
    simp [refersTo, references, components, Part.ruleName?, @eq_comm _ name]
  | choice alternatives => simp [refersTo, references, components, Part.ruleName?]
  | literal pattern => simp [refersTo, references, components, Part.ruleName?]
  | composition parts => simp [refersTo, references, components]

namespace Grammar

variable {g : Grammar} {c : CompiledGrammar} {name far : String}

/-! ## The way back -/

theorem mem_referring_iff : name ∈ g.referring far ↔ g.Refers name far := by
  simp only [referring, List.mem_map, List.mem_filter, Description.refersTo_iff, Refers]
  grind

/-- What is met reaches one of the pending names. -/
theorem exists_pending_of_mem_traceBack {unmet pending : List String}
    (h : name ∈ g.traceBack unmet pending) :
    ∃ start ∈ pending, Relation.ReflTransGen g.Refers name start := by
  fun_induction traceBack g unmet pending with
  | case1 => simp at h
  | case2 unmet met pending hunmet ih =>
    rcases List.mem_cons.1 h with rfl | h
    · exact ⟨name, List.mem_cons_self, .refl⟩
    · obtain ⟨start, hstart, hname⟩ := ih h
      rcases List.mem_append.1 hstart with hstart | hstart
      · exact ⟨met, List.mem_cons_self, hname.tail (mem_referring_iff.1 hstart)⟩
      · exact ⟨start, List.mem_cons_of_mem _ hstart, hname⟩
  | case3 unmet met pending hunmet ih =>
    obtain ⟨start, hstart, hname⟩ := ih h
    exact ⟨start, List.mem_cons_of_mem _ hstart, hname⟩

/-- Pending names that are unmet are met. -/
theorem mem_traceBack_of_mem {unmet pending : List String} (hpending : name ∈ pending)
    (hunmet : name ∈ unmet) : name ∈ g.traceBack unmet pending := by
  fun_induction traceBack g unmet pending with
  | case1 => simp at hpending
  | case2 unmet met pending hmet ih =>
    by_cases heq : name = met
    · exact heq ▸ List.mem_cons_self
    · refine List.mem_cons_of_mem _ (ih ?_ ((List.mem_erase_of_ne heq).2 hunmet))
      exact List.mem_append_right _ (List.mem_of_ne_of_mem heq hpending)
  | case3 unmet met pending hmet ih =>
    rcases List.mem_cons.1 hpending with rfl | hpending
    · exact absurd hunmet hmet
    · exact ih hpending hunmet

/-- With a name that is met, the names that refer to it are met too, if they were unmet. -/
theorem mem_traceBack_of_refers {unmet pending : List String}
    (hfar : far ∈ g.traceBack unmet pending) (hname : g.Refers name far) (hunmet : name ∈ unmet) :
    name ∈ g.traceBack unmet pending := by
  fun_induction traceBack g unmet pending with
  | case1 => simp at hfar
  | case2 unmet met pending hmet ih =>
    by_cases heq : name = met
    · exact heq ▸ List.mem_cons_self
    · have hunmet := (List.mem_erase_of_ne heq).2 hunmet
      refine List.mem_cons_of_mem _ ?_
      rcases List.mem_cons.1 hfar with rfl | hfar
      · exact mem_traceBack_of_mem (List.mem_append_left _ (mem_referring_iff.2 hname)) hunmet
      · exact ih hfar hunmet
  | case3 unmet met pending hmet ih => exact ih hfar hunmet

/-- The names that are met on the way back from a name are those that reach it. -/
theorem mem_ancestors : name ∈ g.ancestors far ↔ g.Reaches name far := by
  constructor
  · intro h
    obtain ⟨start, hstart, hname⟩ := exists_pending_of_mem_traceBack h
    exact Relation.TransGen.tail' hname (mem_referring_iff.1 hstart)
  · intro h
    have hnames : ∀ {name ref}, g.Refers name ref → name ∈ g.rules.map Rule.name := by
      rintro _ _ ⟨r, hr, rfl, -⟩
      exact List.mem_map_of_mem hr
    induction h using Relation.TransGen.head_induction_on with
    | single hrefers => exact mem_traceBack_of_mem (mem_referring_iff.2 hrefers) (hnames hrefers)
    | head hrefers _ ih => exact mem_traceBack_of_refers ih hrefers (hnames hrefers)

/-! ## Compiled grammars -/

/-- In a compiled grammar the rules that are found for a name are those with the name. -/
theorem ancestors_eq_of_find? (h : g.compile = .ok c) {cr : CompiledRule}
    (hcr : c.find? name = some cr) : cr.ancestors = g.ancestors name := by
  obtain ⟨-, rules, memo, -, hc⟩ := exists_rules_of_compile h
  have hmem := CompiledGrammar.mem_of_find? hcr
  rw [hc] at hmem
  obtain ⟨cr', -, rfl⟩ := List.mem_map.1 hmem
  obtain rfl := CompiledGrammar.name_of_find? hcr
  rfl

/-- In a grammar in which references go to rules, only rules are reached. -/
theorem Defined.exists_rule (h : g.Defined) (hreach : g.Reaches name far) :
    ∃ r ∈ g.rules, r.name = far := by
  obtain ⟨_, -, r, hr, -, href⟩ := Relation.TransGen.tail'_iff.1 hreach
  exact h r hr far href

/-- The names that a compiled grammar keeps for a name are those that reach it. -/
theorem mem_ancestors_iff (h : g.compile = .ok c) :
    name ∈ c.ancestors far ↔ g.Reaches name far := by
  obtain ⟨order, hc⟩ := exists_order_of_compile h
  rw [CompiledGrammar.ancestors]
  cases hfar : c.find? far with
  | some cr => rw [Option.elim_some, ancestors_eq_of_find? h hfar, mem_ancestors]
  | none =>
    refine iff_of_false (by simp) fun hreach => ?_
    obtain ⟨r, hr, hname⟩ := hc.defined.exists_rule hreach
    rw [← hc.rules_eq] at hr
    obtain ⟨cr, hcr, rfl⟩ := List.mem_map.1 hr
    simpa [hname] using List.find?_eq_none.1 hfar cr hcr

/-- The referrers of a name are the rules that reach it, in the order of their declaration. -/
theorem referrers_eq_filter (h : g.compile = .ok c) (name : String)
    [DecidablePred fun r : Rule => g.Reaches r.name name] :
    c.referrers name = g.rules.filter fun r => g.Reaches r.name name := by
  obtain ⟨order, hc⟩ := exists_order_of_compile h
  rw [CompiledGrammar.referrers, hc.rules_eq]
  refine List.filter_congr fun r _ => ?_
  simp [mem_ancestors_iff h]

theorem mem_referrers_iff (h : g.compile = .ok c) {r : Rule} :
    r ∈ c.referrers name ↔ r ∈ g.rules ∧ g.Reaches r.name name := by
  classical
  rw [referrers_eq_filter h, List.mem_filter, decide_eq_true_eq]

/-- In a compiled grammar the referrers of a name are, in the order of their declaration and each of
them once, the rules that reach it over one reference or more. No rule with the name itself is among
them, and a name without a rule has none. Referrers of referrers are referrers, and no two rules are
referrers of each other. -/
theorem referrers_exact (h : g.compile = .ok c) :
    (∀ name, (c.referrers name).Sublist g.rules ∧ (c.referrers name).Nodup ∧
      (∀ r, r ∈ c.referrers name ↔ r ∈ g.rules ∧ g.Reaches r.name name) ∧
      (∀ r ∈ c.referrers name, r.name ≠ name) ∧
      ((∀ r ∈ g.rules, r.name ≠ name) → c.referrers name = [])) ∧
    (∀ r r' name, r ∈ c.referrers r'.name → r' ∈ c.referrers name → r ∈ c.referrers name) ∧
      ∀ r r', r ∈ c.referrers r'.name → r' ∉ c.referrers r.name := by
  classical
  have hvalid := valid_of_compile h
  have hnodup : g.rules.Nodup := hvalid.nodup.of_map
  refine ⟨fun name => ⟨?_, ?_, fun r => mem_referrers_iff h, ?_, ?_⟩, ?_, ?_⟩
  · rw [referrers_eq_filter h]
    exact List.filter_sublist
  · rw [referrers_eq_filter h]
    exact hnodup.filter _
  · rintro r hr rfl
    exact hvalid.acyclic _ ((mem_referrers_iff h).1 hr).2
  · intro hunknown
    refine List.eq_nil_iff_forall_not_mem.2 fun r hr => ?_
    obtain ⟨target, htarget, hname⟩ :=
      hvalid.defined.exists_rule ((mem_referrers_iff h).1 hr).2
    exact hunknown target htarget hname
  · intro r r' name hr hr'
    rw [mem_referrers_iff h] at hr hr' ⊢
    exact ⟨hr.1, hr.2.trans hr'.2⟩
  · intro r r' hr hr'
    rw [mem_referrers_iff h] at hr hr'
    exact hvalid.acyclic _ (hr.2.trans hr'.2)

/-- Two ways from one rule to another, of one reference and of two. -/
def detour : Grammar :=
  ⟨[⟨"block", .composition [.name "line", .literal "; ", .name "word"]⟩,
    ⟨"line", .repetition "word" 1 none⟩, ⟨"word", .literal "[a-z]"⟩]⟩

theorem referrers_exact_detour : ∃ c, detour.compile = .ok c ∧
    (c.referrers "word").map Rule.name = ["block", "line"] ∧ detour.Reaches "block" "word" ∧
    ⟨"word", .literal "[a-z]"⟩ ∉ c.referrers "word" ∧ c.referrers "other" = [] := by
  have hok : detour.compile.toOption.any fun c =>
      (c.referrers "word").map Rule.name == ["block", "line"] := by decide +kernel
  obtain ⟨c, hc, hnames⟩ := exists_ok_of_any hok
  have hnames := eq_of_beq hnames
  obtain ⟨hreferrers, -, -⟩ := referrers_exact hc
  obtain ⟨-, -, hmem, hother, -⟩ := hreferrers "word"
  obtain ⟨-, -, -, -, hunknown⟩ := hreferrers "other"
  refine ⟨c, hc, hnames, ?_, fun hword => hother _ hword rfl, hunknown (by decide)⟩
  have hblock : "block" ∈ (c.referrers "word").map Rule.name := by simp [hnames]
  obtain ⟨r, hr, hname⟩ := List.mem_map.1 hblock
  exact hname ▸ ((hmem r).1 hr).2

end Grammar

end PatternGrammar
