import Mathlib.Logic.Relation
import PatternGrammar.Proofs.Grammar.Expansion

/-!
# Which grammars compile

Nothing checks the references of a grammar before its rules are expanded: an unknown name and a
cycle come up on the way, between the compiled patterns of earlier rules. Still the outcome only
depends on the grammar. It compiles if and only if it has rules, their names are different, each
reference goes to a rule, no rule reaches itself through references, and the two patterns of each
rule are regular expressions (`Grammar.Valid`).

In a valid grammar an expansion does not fail, because the path of rules that are being expanded
follows references (`expandWithin_succeeds`). What it gives does not depend on the memo
(`eq_expandPlain_of_lookup`).

Main result: `Grammar.exists_compile_iff_valid`.
-/

namespace PatternGrammar

theorem Bodies.eq_map {patterns : String → Option String} {parts : List Part}
    {bodies : List String} (h : Bodies patterns parts bodies) {f : Part → String}
    (hf : ∀ part ∈ parts, ∀ body, part.body? patterns = some body → body = f part) :
    bodies = parts.map f := by
  induction h with
  | nil => rfl
  | cons hpart _ ih =>
    rw [List.map_cons, ← hf _ List.mem_cons_self _ hpart,
      ih fun part hmem => hf part (List.mem_cons_of_mem _ hmem)]

namespace Grammar

variable {g : Grammar}

/-! ## Valid grammars -/

/-- The rule with the first name refers to the second name. -/
def Refers (g : Grammar) (name ref : String) : Prop :=
  ∃ r ∈ g.rules, r.name = name ∧ ref ∈ r.description.references

/-- The rule with the first name reaches the second name through references. -/
def Reaches (g : Grammar) : String → String → Prop :=
  Relation.TransGen g.Refers

/-- No rule reaches itself. -/
def Acyclic (g : Grammar) : Prop :=
  ∀ name, ¬ g.Reaches name name

/-- Each reference goes to a rule. -/
def Defined (g : Grammar) : Prop :=
  ∀ r ∈ g.rules, ∀ ref ∈ r.description.references, ∃ r' ∈ g.rules, r'.name = ref

/-- The pattern of a rule with all references in it replaced. A path of references in a grammar
without cycles is not longer than the row of its rules, which makes the depth enough
(`patternOf_eq`). -/
def patternOf (g : Grammar) (r : Rule) : String :=
  g.expandPlain g.rules.length r

/-- The pattern of a component. -/
def bodyOf (g : Grammar) : Part → String
  | .name name => ((g.get? name).map g.patternOf).getD ""
  | .literal pattern => pattern

/-- The pattern of a rule with the components in named groups. -/
def groupPatternOf (g : Grammar) (r : Rule) : String :=
  r.description.assembleGroups (r.description.components.map g.bodyOf)

/-- What a grammar needs to be compiled. -/
structure Valid (g : Grammar) : Prop where
  rules_ne_nil : g.rules ≠ []
  nodup : (g.rules.map Rule.name).Nodup
  defined : g.Defined
  acyclic : g.Acyclic
  pattern_ok : ∀ r ∈ g.rules, ∃ re, Regex.compile (g.patternOf r) = .ok re
  groupPattern_ok : ∀ r ∈ g.rules, ∃ re, Regex.compile (anchored (g.groupPatternOf r)) = .ok re

theorem Defined.exists_get? (h : g.Defined) {r : Rule} (hr : r ∈ g.rules) {ref : String}
    (href : ref ∈ r.description.references) : ∃ r', g.get? ref = some r' := by
  obtain ⟨r', hr', rfl⟩ := h r hr ref href
  have hsome : (g.get? r'.name).isSome := by
    rw [get?, List.find?_isSome]
    exact ⟨r', hr', by simp⟩
  exact Option.isSome_iff_exists.1 hsome

/-! ## The order of names -/

namespace Ordered

variable {order : List String}

/-- With a name the row holds the names that its rule refers to. -/
theorem mem_of_mem_references (h : g.Ordered order) {name ref : String} {r : Rule}
    (hname : name ∈ order) (hr : g.get? name = some r) (href : ref ∈ r.description.references) :
    ref ∈ order :=
  List.idxOf_lt_length_iff.1 (Nat.lt_trans (h.rank_lt hname hr href)
    (List.idxOf_lt_length_iff.2 hname))

theorem length_le (h : g.Ordered order) : order.length ≤ g.rules.length := by
  refine CompilesTo.length_le_of_nodup h.nodup fun name hname => ?_
  obtain ⟨r, hr⟩ := h.exists_rule name hname
  exact ⟨r, List.mem_of_find?_eq_some hr, name_of_get? hr⟩

end Ordered

namespace CompilesTo

variable {c : CompiledGrammar} {order : List String}

theorem idxOf_lt_of_refers (h : g.CompilesTo c order) {name ref : String}
    (href : g.Refers name ref) : order.idxOf ref < order.idxOf name := by
  obtain ⟨r, hr, rfl, href⟩ := href
  exact h.ordered.rank_lt (h.mem_order r hr) (get?_of_mem h.nodup hr) href

/-- A name comes after all names that it reaches. -/
theorem idxOf_lt_of_reaches (h : g.CompilesTo c order) {name ref : String}
    (hreach : g.Reaches name ref) : order.idxOf ref < order.idxOf name := by
  induction hreach with
  | single href => exact h.idxOf_lt_of_refers href
  | tail _ href ih => exact Nat.lt_trans (h.idxOf_lt_of_refers href) ih

theorem acyclic (h : g.CompilesTo c order) : g.Acyclic :=
  fun _ hcycle => Nat.lt_irrefl _ (h.idxOf_lt_of_reaches hcycle)

theorem defined (h : g.CompilesTo c order) : g.Defined := by
  intro r hr ref href
  have hmem := h.ordered.mem_of_mem_references (h.mem_order r hr) (get?_of_mem h.nodup hr) href
  obtain ⟨r', hr'⟩ := h.ordered.exists_rule ref hmem
  exact ⟨r', List.mem_of_find?_eq_some hr', name_of_get? hr'⟩

end CompilesTo

/-! ## Expansions that do not fail -/

/-- From a memo with the property the expansion succeeds, and the memo after it has the property. -/
def Succeeds {α : Type} (P : Memo → Prop) (expand : Expanding α) : Prop :=
  ∀ memo, P memo → ∃ a memo', expand memo = (.ok a, memo') ∧ P memo'

theorem expandParts_succeeds {P : Memo → Prop} {reference : String → Expanding String}
    {parts : List Part}
    (href : ∀ name, .name name ∈ parts → Succeeds P (reference name)) :
    Succeeds P (expandParts reference parts) := by
  induction parts with
  | nil => exact fun memo hmemo => ⟨[], memo, rfl, hmemo⟩
  | cons part parts ih =>
    intro memo hmemo
    have hrest := ih fun n hn => href n (List.mem_cons_of_mem _ hn)
    cases part with
    | literal pattern =>
      obtain ⟨bodies, memo', hrest, hmemo'⟩ := hrest memo hmemo
      exact ⟨pattern :: bodies, memo', by simp only [expandParts, hrest], hmemo'⟩
    | name name =>
      obtain ⟨body, memo₁, hfirst, hmemo₁⟩ := href name List.mem_cons_self memo hmemo
      obtain ⟨bodies, memo₂, hrest, hmemo₂⟩ := hrest memo₁ hmemo₁
      exact ⟨body :: bodies, memo₂, by simp only [expandParts, hfirst, hrest], hmemo₂⟩

theorem Succeeds.following {P : Memo → Prop} {expand : Rule → Expanding String} {ref : String}
    {target : Rule} (htarget : g.get? ref = some target) (hexpand : Succeeds P (expand target))
    (referrer : String) : Succeeds P (g.following referrer expand ref) := by
  intro memo hmemo
  obtain ⟨body, memo', hbody, hmemo'⟩ := hexpand memo hmemo
  exact ⟨body, memo', by simp only [Grammar.following, htarget, hbody], hmemo'⟩

/-- Where references go to rules and there is no cycle, a rule is expanded, if all rules that are
being expanded around it reach it. They are different then, so that the depth is not used up. -/
theorem expandWithin_succeeds (hdefined : g.Defined) (hacyclic : g.Acyclic) {depth : ℕ}
    {path : List String} {r : Rule} (hr : r ∈ g.rules)
    (hdepth : g.rules.length < depth + path.length) (hnodup : path.Nodup)
    (hnames : ∀ name ∈ path, ∃ r' ∈ g.rules, r'.name = name)
    (hreach : ∀ name ∈ path, g.Reaches name r.name) :
    Succeeds (fun _ => True) (expandWithin g depth path r) := by
  induction depth generalizing path r with
  | zero =>
    have := CompilesTo.length_le_of_nodup hnodup hnames
    omega
  | succ depth ih =>
    intro memo _
    cases hlookup : memo.lookup r.name with
    | some pattern => exact ⟨pattern, memo, by rw [expandWithin, hlookup], trivial⟩
    | none =>
      have hpath : r.name ∉ path := fun hmem => hacyclic _ (hreach _ hmem)
      have hparts : Succeeds (fun _ => True) (expandParts
          (g.following r.name (expandWithin g depth (path ++ [r.name])))
          r.description.components) := by
        refine expandParts_succeeds fun ref href => ?_
        have href := mem_references_of_mem_components href
        obtain ⟨target, htarget⟩ := hdefined.exists_get? hr href
        obtain rfl := name_of_get? htarget
        have hrefers : g.Refers r.name target.name := ⟨r, hr, rfl, href⟩
        refine .following htarget (ih (List.mem_of_find?_eq_some htarget) ?_ ?_ ?_ ?_) _
        · rw [List.length_append, List.length_singleton]
          omega
        · exact List.nodup_append.2 ⟨hnodup, by simp, by simp; grind⟩
        · intro name hname
          rcases List.mem_append.1 hname with hname | hname
          · exact hnames name hname
          · exact ⟨r, hr, (List.mem_singleton.1 hname).symm⟩
        · intro name hname
          rcases List.mem_append.1 hname with hname | hname
          · exact Relation.TransGen.tail (hreach name hname) hrefers
          · rw [List.mem_singleton.1 hname]
            exact Relation.TransGen.single hrefers
      obtain ⟨bodies, memo', hbodies, -⟩ := hparts memo trivial
      exact ⟨_, _, by rw [expandWithin_succ depth hlookup hpath, hbodies], trivial⟩

theorem exists_expandRule_eq_ok (hdefined : g.Defined) (hacyclic : g.Acyclic) {r : Rule}
    (hr : r ∈ g.rules) (memo : Memo) :
    ∃ pattern memo', expandRule g r memo = (.ok pattern, memo') := by
  have hsucceeds : Succeeds (fun _ => True) (expandWithin g (g.rules.length + 1) [] r) :=
    expandWithin_succeeds hdefined hacyclic hr (by simp) List.nodup_nil (by simp) (by simp)
  obtain ⟨pattern, memo', h, -⟩ := hsucceeds memo trivial
  exact ⟨pattern, memo', h⟩

/-! ## The direct pattern of a rule that was expanded -/

theorem Memo.exists_lookup {memo : Memo} {name : String} (h : name ∈ memo.names) :
    ∃ pattern, memo.lookup name = some pattern := by
  cases hlookup : memo.lookup name with
  | none => exact absurd h (Memo.lookup_eq_none_iff.1 hlookup)
  | some pattern => exact ⟨pattern, rfl⟩

theorem Memo.mem_names_of_lookup {memo : Memo} {name pattern : String}
    (h : memo.lookup name = some pattern) : name ∈ memo.names := by
  by_contra hnot
  rw [Memo.lookup_eq_none_iff.2 hnot] at h
  simp at h

/-- The direct pattern of a rule in the memo is built from the memo alone. -/
theorem expandGroups_of_mem {r : Rule} (hr : g.get? r.name = some r) {memo : Memo}
    (horder : g.Ordered memo.names) (hmem : r.name ∈ memo.names) :
    ∃ groupPattern, expandGroups g r memo = (.ok groupPattern, memo) := by
  have hparts : Succeeds (· = memo) (expandParts (g.following r.name (expandRule g))
      r.description.components) := by
    refine expandParts_succeeds fun ref href => ?_
    have href := horder.mem_of_mem_references hmem hr (mem_references_of_mem_components href)
    obtain ⟨target, htarget⟩ := horder.exists_rule ref href
    refine .following htarget ?_ _
    rintro _ rfl
    obtain ⟨body, hbody⟩ := Memo.exists_lookup href
    obtain rfl := name_of_get? htarget
    exact ⟨body, _, by rw [expandRule, expandWithin, hbody], rfl⟩
  obtain ⟨bodies, memo', hbodies, rfl⟩ := hparts memo rfl
  exact ⟨_, by rw [expandGroups_eq, hbodies]⟩

/-- After its expansion a rule has a direct pattern, wherever in the row of rules it stands. -/
theorem exists_expandGroups_eq_ok {front back : List Rule} {r : Rule}
    (hnodup : (g.rules.map Rule.name).Nodup) (hrules : g.rules = front ++ r :: back)
    {rules : List CompiledRule} {memo memo' : Memo} {pattern : String}
    (hfront : compileRules g front [] = (.ok rules, memo))
    (hpattern : expandRule g r memo = (.ok pattern, memo')) :
    ∃ groupPattern, expandGroups g r memo' = (.ok groupPattern, memo') := by
  have hget : ∀ r' ∈ front ++ r :: back, g.get? r'.name = some r' :=
    fun r' hr' => get?_of_mem hnodup (hrules ▸ hr')
  have hr := hget r (by simp)
  obtain ⟨-, -, horder, -, -⟩ :=
    compileRules_eq_ok hfront (fun r' hr' => hget r' (List.mem_append_left _ hr')) .nil
  obtain ⟨horder', -, -, hdone⟩ := expandRule_keeps hr memo horder (by simp)
  rw [hpattern] at horder' hdone
  exact expandGroups_of_mem hr horder' (hdone pattern rfl List.mem_cons_self)

/-! ## The pattern of a rule -/

/-- A memo holds the patterns that expanding by recursion alone gives, to any depth beyond the place
of the name in an order. -/
theorem eq_expandPlain_of_lookup {order : List String} {memo : Memo} (horder : g.Ordered order)
    (hmemo : g.Coherent memo) (hmem : ∀ n p, memo.lookup n = some p → n ∈ order) {depth : ℕ}
    {name pattern : String} {r : Rule} (hlookup : memo.lookup name = some pattern)
    (hr : g.get? name = some r) (hdepth : order.idxOf name < depth) :
    pattern = g.expandPlain depth r := by
  induction depth generalizing name pattern r with
  | zero => omega
  | succ depth ih =>
    obtain ⟨r', bodies, hr', hbodies, rfl⟩ := hmemo name pattern hlookup
    obtain rfl := Option.some.inj (hr.symm.trans hr')
    rw [expandPlain]
    congr 1
    refine hbodies.eq_map fun part hpart body hbody => ?_
    cases part with
    | literal p => exact (Option.some.inj hbody).symm
    | name ref =>
      obtain ⟨target, -, htarget, -⟩ := hmemo ref body hbody
      have := horder.rank_lt (hmem _ _ hlookup) hr (mem_references_of_mem_components hpart)
      simp only [htarget, Option.map_some, Option.getD_some]
      exact ih hbody htarget (by omega)

/-- A memo in which references only go to the front holds the patterns of the rules. -/
theorem eq_patternOf_of_lookup {order : List String} {memo : Memo} (horder : g.Ordered order)
    (hmemo : g.Coherent memo) (hmem : ∀ n p, memo.lookup n = some p → n ∈ order)
    {name pattern : String} {r : Rule} (hlookup : memo.lookup name = some pattern)
    (hr : g.get? name = some r) : pattern = g.patternOf r := by
  have := List.idxOf_lt_length_iff.2 (hmem _ _ hlookup)
  have := horder.length_le
  exact eq_expandPlain_of_lookup horder hmemo hmem hlookup hr (by omega)

theorem eq_map_bodyOf {order : List String} {memo : Memo} (horder : g.Ordered order)
    (hmemo : g.Coherent memo) (hmem : ∀ n p, memo.lookup n = some p → n ∈ order)
    {parts : List Part} {bodies : List String} (h : Bodies memo.pattern? parts bodies) :
    bodies = parts.map g.bodyOf := by
  refine h.eq_map fun part _ body hbody => ?_
  cases part with
  | literal p => exact (Option.some.inj hbody).symm
  | name ref =>
    obtain ⟨target, -, htarget, -⟩ := hmemo ref body hbody
    rw [bodyOf, htarget]
    exact eq_patternOf_of_lookup horder hmemo hmem hbody htarget

/-- The pattern of a rule is put together from the patterns of its components. -/
theorem patternOf_eq (hnodup : (g.rules.map Rule.name).Nodup) (hdefined : g.Defined)
    (hacyclic : g.Acyclic) {r : Rule} (hr : r ∈ g.rules) :
    g.patternOf r = r.description.assemble (r.description.components.map g.bodyOf) := by
  have hget := get?_of_mem hnodup hr
  obtain ⟨pattern, memo, hpattern⟩ := exists_expandRule_eq_ok hdefined hacyclic hr []
  obtain ⟨horder, -⟩ := expandRule_keeps hget [] .nil (by simp)
  obtain ⟨hmemo, -, hlookup⟩ :=
    expandRule_gives hget [] memo pattern .nil (by simp) (by simp [Coherent]) hpattern
  rw [hpattern] at horder
  have hmem := fun n p => @Memo.mem_names_of_lookup memo n p
  obtain ⟨r', bodies, hr', hbodies, hassemble⟩ := hmemo _ _ hlookup
  obtain rfl := Option.some.inj (hget.symm.trans hr')
  rw [← eq_patternOf_of_lookup horder hmemo hmem hlookup hget, hassemble,
    eq_map_bodyOf horder hmemo hmem hbodies]

/-- What is expanded for a rule from a memo of the grammar are the patterns of the rule, and the memo
after it is one of the grammar. -/
theorem patterns_of_expand {r : Rule} (hr : g.get? r.name = some r) {memo memo₁ memo₂ : Memo}
    {pattern groupPattern : String} (horder : g.Ordered memo.names) (hmemo : g.Coherent memo)
    (hpattern : expandRule g r memo = (.ok pattern, memo₁))
    (hgroups : expandGroups g r memo₁ = (.ok groupPattern, memo₂)) :
    pattern = g.patternOf r ∧ groupPattern = g.groupPatternOf r ∧ g.Ordered memo₂.names ∧
      g.Coherent memo₂ := by
  obtain ⟨horder₁, -⟩ := expandRule_keeps hr memo horder (by simp)
  rw [hpattern] at horder₁
  obtain ⟨hmemo₁, -, hlookup⟩ :=
    expandRule_gives hr memo memo₁ pattern horder (by simp) hmemo hpattern
  obtain ⟨horder₂, -⟩ := expandGroups_keeps r memo₁ horder₁ (by simp)
  rw [hgroups] at horder₂
  obtain ⟨hmemo₂, -, bodies, hbodies, hassemble⟩ :=
    expandGroups_gives r memo₁ memo₂ groupPattern horder₁ (by simp) hmemo₁ hgroups
  have hmem₁ := fun n p => @Memo.mem_names_of_lookup memo₁ n p
  have hmem₂ := fun n p => @Memo.mem_names_of_lookup memo₂ n p
  refine ⟨eq_patternOf_of_lookup horder₁ hmemo₁ hmem₁ hlookup hr, ?_, horder₂, hmemo₂⟩
  rw [hassemble, groupPatternOf, eq_map_bodyOf horder₂ hmemo₂ hmem₂ hbodies]

/-! ## Grammars that compile -/

theorem compilePattern_of_ok {pattern : String} {re : Regex} (h : Regex.compile pattern = .ok re)
    (r : Rule) : compilePattern r pattern = .ok re := by
  rw [compilePattern, h]

theorem firstDuplicate?_eq_none {seen names : List String} (hnodup : names.Nodup)
    (hseen : ∀ name ∈ names, name ∉ seen) : firstDuplicate? seen names = none := by
  induction names generalizing seen with
  | nil => rfl
  | cons name names ih =>
    obtain ⟨hnot, hnodup⟩ := List.nodup_cons.1 hnodup
    rw [firstDuplicate?, if_neg (by simpa using hseen name List.mem_cons_self)]
    refine ih hnodup fun n hn hmem => ?_
    rcases List.mem_cons.1 hmem with rfl | hmem
    · exact hnot hn
    · exact hseen n (List.mem_cons_of_mem _ hn) hmem

/-- The rules of a valid grammar are compiled one after another, whatever the memo holds of them. -/
theorem Valid.exists_compileRules_eq_ok (h : g.Valid) {rs : List Rule} (hrs : rs ⊆ g.rules)
    {memo : Memo} (horder : g.Ordered memo.names) (hmemo : g.Coherent memo) :
    ∃ rules memo', compileRules g rs memo = (.ok rules, memo') := by
  induction rs generalizing memo with
  | nil => exact ⟨[], memo, rfl⟩
  | cons r rs ih =>
    obtain ⟨hr, hrs⟩ := List.cons_subset.1 hrs
    have hget := get?_of_mem h.nodup hr
    obtain ⟨pattern, memo₁, hpattern⟩ := exists_expandRule_eq_ok h.defined h.acyclic hr memo
    obtain ⟨groupPattern, hgroups⟩ :
        ∃ groupPattern, expandGroups g r memo₁ = (.ok groupPattern, memo₁) := by
      obtain ⟨horder₁, -, -, hdone⟩ := expandRule_keeps hget memo horder (by simp)
      rw [hpattern] at horder₁ hdone
      exact expandGroups_of_mem hget horder₁ (hdone pattern rfl List.mem_cons_self)
    obtain ⟨hplain, hgrouped, horder₁, hmemo₁⟩ :=
      patterns_of_expand hget horder hmemo hpattern hgroups
    obtain ⟨matcher, hmatcher⟩ := h.pattern_ok r hr
    obtain ⟨groups, hanchored⟩ := h.groupPattern_ok r hr
    rw [← hplain] at hmatcher
    rw [← hgrouped] at hanchored
    obtain ⟨rest, memo', hrest⟩ := ih hrs horder₁ hmemo₁
    refine ⟨⟨r, pattern, matcher, groupPattern, groups, []⟩ :: rest, memo', ?_⟩
    simp only [compileRules, hpattern, hgroups, compilePattern_of_ok hmatcher,
      compilePattern_of_ok hanchored, hrest]

theorem Valid.exists_compile_eq_ok (h : g.Valid) : ∃ c, g.compile = .ok c := by
  have hempty : g.Coherent [] := by simp [Coherent]
  obtain ⟨rules, memo, hrules⟩ := h.exists_compileRules_eq_ok (List.Subset.refl _) .nil hempty
  obtain ⟨heq, -⟩ := compileRules_eq_ok hrules (fun r hr => get?_of_mem h.nodup hr) .nil
  have hne : rules ≠ [] := by
    rintro rfl
    exact h.rules_ne_nil heq.symm
  obtain ⟨first, others, rfl⟩ := List.exists_cons_of_ne_nil hne
  rw [compile, compileWithMemo, if_neg (by simpa using h.rules_ne_nil),
    firstDuplicate?_eq_none h.nodup (by simp), hrules]
  exact ⟨_, rfl⟩

/-- A compiled rule has the patterns that its grammar gives it. -/
theorem patterns_eq_of_compile {c : CompiledGrammar} (h : g.compile = .ok c) {cr : CompiledRule}
    (hcr : cr ∈ c.rules) :
    cr.pattern = g.patternOf cr.rule ∧ cr.groupPattern = g.groupPatternOf cr.rule := by
  obtain ⟨order, hc⟩ := exists_order_of_compile h
  obtain ⟨memo, hmemo, hpatterns⟩ := exists_memo_of_compile h
  obtain ⟨hlookup, bodies, hbodies, hgroups⟩ := hpatterns cr hcr
  have hmem : ∀ n p, memo.lookup n = some p → n ∈ order := by
    intro n p hn
    obtain ⟨r, -, hr, -⟩ := hmemo n p hn
    obtain rfl := name_of_get? hr
    exact hc.mem_order r (List.mem_of_find?_eq_some hr)
  refine ⟨eq_patternOf_of_lookup hc.ordered hmemo hmem hlookup
    (get?_of_mem hc.nodup (hc.rule_mem hcr)), ?_⟩
  rw [hgroups, eq_map_bodyOf hc.ordered hmemo hmem hbodies, groupPatternOf]

theorem valid_of_compile {c : CompiledGrammar} (h : g.compile = .ok c) : g.Valid := by
  obtain ⟨order, hc⟩ := exists_order_of_compile h
  have hexists : ∀ r ∈ g.rules, ∃ cr ∈ c.rules, cr.rule = r := by
    intro r hr
    rw [← hc.rules_eq] at hr
    exact List.mem_map.1 hr
  refine ⟨?_, hc.nodup, hc.defined, hc.acyclic, ?_, ?_⟩
  · rw [← hc.rules_eq]
    simp [CompiledGrammar.rules]
  · intro r hr
    obtain ⟨cr, hcr, rfl⟩ := hexists r hr
    exact ⟨cr.matcher, (patterns_eq_of_compile h hcr).1 ▸ (hc.compiled cr hcr).1⟩
  · intro r hr
    obtain ⟨cr, hcr, rfl⟩ := hexists r hr
    exact ⟨cr.groups, (patterns_eq_of_compile h hcr).2 ▸ (hc.compiled cr hcr).2⟩

/-- A grammar compiles if and only if it is valid. On the way through the rules, whether or not it
comes to its end, the direct pattern of a rule follows its expansion without an error of
references. -/
theorem exists_compile_iff_valid (g : Grammar) :
    ((∃ c, g.compile = .ok c) ↔ g.Valid) ∧
      ((g.rules.map Rule.name).Nodup → ∀ front r back, g.rules = front ++ r :: back →
        ∀ rules memo pattern memo', compileRules g front [] = (.ok rules, memo) →
          expandRule g r memo = (.ok pattern, memo') →
            ∃ groupPattern, expandGroups g r memo' = (.ok groupPattern, memo')) := by
  refine ⟨⟨?_, Valid.exists_compile_eq_ok⟩, ?_⟩
  · rintro ⟨c, hc⟩
    exact valid_of_compile hc
  · intro hnodup front r back hrules rules memo pattern memo' hfront hpattern
    exact exists_expandGroups_eq_ok hnodup hrules hfront hpattern

theorem exists_compile_iff_valid_pairs :
    pairs.Valid ∧ ∃ r ∈ pairs.rules, ∃ pattern memo groupPattern,
      expandRule pairs r [] = (.ok pattern, memo) ∧
        expandGroups pairs r memo = (.ok groupPattern, memo) := by
  obtain ⟨hiff, hgroups⟩ := exists_compile_iff_valid pairs
  have hvalid := hiff.1 exists_compile_pairs
  have hmem : ⟨"pair", .composition [.name "key", .literal "=", .name "key"]⟩ ∈ pairs.rules :=
    List.mem_cons_self
  refine ⟨hvalid, _, hmem, ?_⟩
  obtain ⟨pattern, memo, hpattern⟩ :=
    exists_expandRule_eq_ok hvalid.defined hvalid.acyclic hmem []
  obtain ⟨groupPattern, hgroupPattern⟩ :=
    hgroups hvalid.nodup [] _ _ rfl [] [] pattern memo rfl hpattern
  exact ⟨pattern, memo, groupPattern, hpattern, hgroupPattern⟩

end Grammar

end PatternGrammar
