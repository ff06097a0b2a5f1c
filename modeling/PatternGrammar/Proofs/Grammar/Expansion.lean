import Mathlib.Data.List.Forall2
import PatternGrammar.Proofs.Grammar.Compiled

/-!
# What rules expand to

The pattern of a compiled rule is put together from the patterns of its components: what is written
for a literal, and the pattern of the compiled rule for a name. It makes no difference when a
pattern went into the memo, because later entries do not change it (`Memo.Extends`).

Main result: `Grammar.exists_bodies_of_compile`.
-/

namespace PatternGrammar

/-- The pattern of a component, by the patterns of rules. -/
def Part.body? (patterns : String → Option String) : Part → Option String
  | name n => patterns n
  | literal p => some p

/-- The components have these patterns, by the patterns of rules. -/
def Bodies (patterns : String → Option String) (parts : List Part) (bodies : List String) : Prop :=
  List.Forall₂ (fun part body => part.body? patterns = some body) parts bodies

theorem Bodies.mono {patterns patterns' : String → Option String} {parts : List Part}
    {bodies : List String} (h : Bodies patterns parts bodies)
    (hpatterns : ∀ name p, patterns name = some p → patterns' name = some p) :
    Bodies patterns' parts bodies := by
  refine h.imp fun part body hpart => ?_
  cases part with
  | name n => exact hpatterns n body hpart
  | literal p => exact hpart

/-- What holds of the patterns of literals and of rules holds of the patterns of components. -/
theorem Bodies.forall_mem {patterns : String → Option String} {parts : List Part}
    {bodies : List String} {P : String → Prop} (h : Bodies patterns parts bodies)
    (hliteral : ∀ p, .literal p ∈ parts → P p)
    (hname : ∀ name, .name name ∈ parts → ∀ p, patterns name = some p → P p) :
    ∀ b ∈ bodies, P b := by
  induction h with
  | nil => simp
  | @cons part body parts bodies hpart _ ih =>
    refine List.forall_mem_cons.2 ⟨?_, ih (fun p hp => hliteral p (List.mem_cons_of_mem _ hp))
      fun name hn => hname name (List.mem_cons_of_mem _ hn)⟩
    cases part with
    | name n => exact hname n List.mem_cons_self body hpart
    | literal p =>
      obtain rfl := Option.some.inj hpart
      exact hliteral p List.mem_cons_self

theorem Bodies.exists_body {patterns : String → Option String} {parts : List Part}
    {bodies : List String} (h : Bodies patterns parts bodies) :
    ∀ part ∈ parts, ∃ body, part.body? patterns = some body := by
  induction h with
  | nil => simp
  | cons hpart _ ih => exact List.forall_mem_cons.2 ⟨⟨_, hpart⟩, ih⟩

theorem Bodies.unique {patterns : String → Option String} {parts : List Part}
    {bodies bodies' : List String} (h : Bodies patterns parts bodies)
    (h' : Bodies patterns parts bodies') : bodies = bodies' := by
  induction h generalizing bodies' with
  | nil => cases h'; rfl
  | cons hpart _ ih =>
    cases h' with
    | cons hpart' hrest => rw [Option.some.inj (hpart.symm.trans hpart'), ih hrest]

namespace CompiledGrammar

/-- The pattern of the rule with a name. -/
def pattern? (c : CompiledGrammar) (name : String) : Option String :=
  (c.find? name).map CompiledRule.pattern

end CompiledGrammar

namespace Grammar

variable {g : Grammar} {path : List String}

/-! ## Memos -/

/-- The pattern of a rule in a memo. -/
def Memo.pattern? (memo : Memo) (name : String) : Option String := memo.lookup name

/-- What is in the first memo is the same in the second. -/
def Memo.Extends (memo memo' : Memo) : Prop :=
  ∀ name pattern, memo.lookup name = some pattern → memo'.lookup name = some pattern

theorem Memo.Extends.refl (memo : Memo) : memo.Extends memo := fun _ _ h => h

theorem Memo.Extends.trans {memo₁ memo₂ memo₃ : Memo} (h : memo₁.Extends memo₂)
    (h' : memo₂.Extends memo₃) : memo₁.Extends memo₃ :=
  fun name pattern hname => h' name pattern (h name pattern hname)

theorem Memo.extends_append (memo new : Memo) : memo.Extends (memo ++ new) := by
  intro name pattern h
  rw [List.lookup_append, h, Option.some_or]

theorem Memo.Extends.bodies {memo memo' : Memo} (h : memo.Extends memo') {parts : List Part}
    {bodies : List String} (hbodies : Bodies memo.pattern? parts bodies) :
    Bodies memo'.pattern? parts bodies :=
  hbodies.mono h

/-- Each pattern in the memo is put together from the patterns of the components of its rule, which
are in the memo as well. -/
def Coherent (g : Grammar) (memo : Memo) : Prop :=
  ∀ name pattern, memo.lookup name = some pattern → ∃ r bodies, g.get? name = some r ∧
    Bodies memo.pattern? r.description.components bodies ∧ pattern = r.description.assemble bodies

theorem Coherent.snoc {memo : Memo} (h : g.Coherent memo) {r : Rule} (hr : g.get? r.name = some r)
    {bodies : List String} (hbodies : Bodies memo.pattern? r.description.components bodies) :
    g.Coherent (memo ++ [(r.name, r.description.assemble bodies)]) := by
  have hextends := memo.extends_append [(r.name, r.description.assemble bodies)]
  intro name pattern hname
  rw [List.lookup_append, Option.or_eq_some_iff] at hname
  rcases hname with hname | ⟨-, hname⟩
  · obtain ⟨r', bodies', hr', hbodies', rfl⟩ := h name pattern hname
    exact ⟨r', bodies', hr', hextends.bodies hbodies', rfl⟩
  · rw [List.lookup_cons] at hname
    split at hname
    · rename_i heq
      obtain rfl := beq_iff_eq.1 heq
      obtain rfl := Option.some.inj hname
      exact ⟨r, bodies, hr, hextends.bodies hbodies, rfl⟩
    · simp at hname

/-! ## Expansions -/

theorem mem_references_of_mem_components {d : Description} {name : String}
    (h : Part.name name ∈ d.components) : name ∈ d.references :=
  List.mem_filterMap.2 ⟨_, h, rfl⟩

/-- Where the expansion succeeds, from a memo that is in order and holds the patterns of its rules,
it leaves a memo that holds the patterns of its rules, with what was there before, and its result is
right by that memo. -/
def Gives {α : Type} (g : Grammar) (path : List String) (expand : Expanding α)
    (right : Memo → α → Prop) : Prop :=
  ∀ memo memo' a, g.Ordered memo.names → (∀ n ∈ path, n ∉ memo.names) → g.Coherent memo →
    expand memo = (.ok a, memo') → g.Coherent memo' ∧ memo.Extends memo' ∧ right memo' a

theorem expandParts_gives {reference : String → Expanding String}
    (hkeeps : ∀ name, g.Keeps path [name] (reference name))
    (hgives : ∀ name, g.Gives path (reference name) fun memo body => memo.lookup name = some body)
    (parts : List Part) :
    g.Gives path (expandParts reference parts) fun memo bodies =>
      Bodies memo.pattern? parts bodies := by
  induction parts with
  | nil =>
    intro memo memo' bodies _ _ hmemo h
    obtain ⟨hbodies, rfl⟩ := Prod.mk.inj h
    obtain rfl := Except.ok.inj hbodies
    exact ⟨hmemo, .refl _, .nil⟩
  | cons part parts ih =>
    intro memo memo' bodies horder hpath hmemo h
    cases part with
    | literal p =>
      rw [expandParts] at h
      split at h
      · simp at h
      · rename_i bodies' memo₁ hrest
        obtain ⟨hbodies, rfl⟩ := Prod.mk.inj h
        obtain rfl := Except.ok.inj hbodies
        obtain ⟨hmemo', hextends, hbodies⟩ := ih memo _ _ horder hpath hmemo hrest
        exact ⟨hmemo', hextends, .cons rfl hbodies⟩
    | name n =>
      obtain ⟨horder₁, hpath₁, -⟩ := hkeeps n memo horder hpath
      rw [expandParts] at h
      cases hfirst : reference n memo with
      | mk body memo₁ =>
        rw [hfirst] at h horder₁ hpath₁
        cases body with
        | error e => simp at h
        | ok body =>
          dsimp only at h
          split at h
          · simp at h
          · rename_i bodies' memo₂ hrest
            obtain ⟨hbodies, rfl⟩ := Prod.mk.inj h
            obtain rfl := Except.ok.inj hbodies
            obtain ⟨hmemo₁, hextends₁, hbody⟩ := hgives n memo _ _ horder hpath hmemo hfirst
            obtain ⟨hmemo₂, hextends₂, hbodies⟩ := ih memo₁ _ _ horder₁ hpath₁ hmemo₁ hrest
            exact ⟨hmemo₂, hextends₁.trans hextends₂, .cons (hextends₂ n body hbody) hbodies⟩

theorem following_gives {expand : Rule → Expanding String} (referrer : String)
    (hexpand : ∀ r, g.get? r.name = some r →
      g.Gives path (expand r) fun memo body => memo.lookup r.name = some body) (name : String) :
    g.Gives path (g.following referrer expand name) fun memo body =>
      memo.lookup name = some body := by
  unfold following
  cases hget : g.get? name with
  | none =>
    intro memo memo' body _ _ _ h
    simp at h
  | some target =>
    obtain rfl := name_of_get? hget
    exact hexpand target hget

/-- The pattern of a rule that was expanded is in the memo. -/
theorem expandWithin_gives (depth : ℕ) {r : Rule} (hr : g.get? r.name = some r) :
    g.Gives path (expandWithin g depth path r) fun memo body =>
      memo.lookup r.name = some body := by
  induction depth generalizing path r with
  | zero =>
    intro memo memo' body _ _ _ h
    simp [expandWithin] at h
  | succ depth ih =>
    intro memo memo' body horder hpath hmemo h
    cases hlookup : memo.lookup r.name with
    | some pattern =>
      rw [expandWithin, hlookup] at h
      obtain ⟨hbody, rfl⟩ := Prod.mk.inj h
      obtain rfl := Except.ok.inj hbody
      exact ⟨hmemo, .refl _, hlookup⟩
    | none =>
      by_cases hin : r.name ∈ path
      · rw [expandWithin, hlookup] at h
        dsimp only at h
        rw [if_pos (by simpa using hin)] at h
        simp at h
      · rw [expandWithin_succ depth hlookup hin] at h
        have hbelow : ∀ n ∈ path ++ [r.name], n ∉ memo.names := by
          intro n hn
          rcases List.mem_append.1 hn with hn | hn
          · exact hpath n hn
          · obtain rfl := List.mem_singleton.1 hn
            exact Memo.lookup_eq_none_iff.1 hlookup
        have hkeeps := following_keeps r.name fun target htarget =>
          @expandWithin_keeps g (path ++ [r.name]) depth target htarget
        have hgives := following_gives r.name fun target htarget =>
          @ih (path ++ [r.name]) target htarget
        split at h
        · simp at h
        · rename_i bodies memo₁ hparts
          obtain ⟨hbody, rfl⟩ := Prod.mk.inj h
          obtain rfl := Except.ok.inj hbody
          -- nothing below the rule enters its name, so that its own entry is the first one
          obtain ⟨-, hnew, -⟩ := expandParts_keeps hkeeps r.description.components memo horder hbelow
          rw [hparts] at hnew
          obtain ⟨hmemo₁, hextends, hbodies⟩ :=
            expandParts_gives hkeeps hgives r.description.components memo _ _ horder hbelow hmemo
              hparts
          refine ⟨hmemo₁.snoc hr hbodies, hextends.trans (memo₁.extends_append _), ?_⟩
          show List.lookup r.name (memo₁ ++ _) = _
          rw [List.lookup_append, Memo.lookup_eq_none_iff.2 (hnew r.name (by simp))]
          simp

theorem expandRule_gives {r : Rule} (hr : g.get? r.name = some r) :
    g.Gives [] (expandRule g r) fun memo body => memo.lookup r.name = some body :=
  expandWithin_gives _ hr

theorem expandGroups_gives (r : Rule) :
    g.Gives [] (expandGroups g r) fun memo pattern =>
      ∃ bodies, Bodies memo.pattern? r.description.components bodies ∧
        pattern = r.description.assembleGroups bodies := by
  intro memo memo' pattern horder hpath hmemo h
  rw [expandGroups_eq] at h
  split at h
  · simp at h
  · rename_i bodies memo₁ hparts
    obtain ⟨hpattern, rfl⟩ := Prod.mk.inj h
    obtain rfl := Except.ok.inj hpattern
    have hkeeps := following_keeps (g := g) r.name fun target htarget => expandRule_keeps htarget
    have hgives := following_gives (g := g) r.name fun target htarget => expandRule_gives htarget
    obtain ⟨hmemo₁, hextends, hbodies⟩ :=
      expandParts_gives hkeeps hgives r.description.components memo _ _ horder hpath hmemo hparts
    exact ⟨hmemo₁, hextends, bodies, hbodies, rfl⟩

/-! ## Compiled rules -/

/-- A compiled rule has the patterns that a memo gives it. -/
def PatternsBy (memo : Memo) (cr : CompiledRule) : Prop :=
  memo.lookup cr.rule.name = some cr.pattern ∧
    ∃ bodies, Bodies memo.pattern? cr.rule.description.components bodies ∧
      cr.groupPattern = cr.rule.description.assembleGroups bodies

theorem PatternsBy.mono {memo memo' : Memo} {cr : CompiledRule} (h : PatternsBy memo cr)
    (hextends : memo.Extends memo') : PatternsBy memo' cr := by
  obtain ⟨hpattern, bodies, hbodies, hgroups⟩ := h
  exact ⟨hextends _ _ hpattern, bodies, hextends.bodies hbodies, hgroups⟩

theorem compileRules_gives {rs : List Rule} {memo memo' : Memo} {rules : List CompiledRule}
    (h : compileRules g rs memo = (.ok rules, memo')) (hrs : ∀ r ∈ rs, g.get? r.name = some r)
    (horder : g.Ordered memo.names) (hmemo : g.Coherent memo) :
    g.Coherent memo' ∧ memo.Extends memo' ∧ ∀ cr ∈ rules, PatternsBy memo' cr := by
  induction rs generalizing memo rules with
  | nil =>
    rw [compileRules] at h
    obtain ⟨hrules, rfl⟩ := Prod.mk.inj h
    obtain rfl := Except.ok.inj hrules
    exact ⟨hmemo, .refl _, by simp⟩
  | cons r rs ih =>
    obtain ⟨pattern, groupPattern, matcher, groups, rest, memo₁, memo₂, hpattern, hgroups, -, -,
      hrest, rfl⟩ := compileRules_cons h
    have hr := hrs r List.mem_cons_self
    obtain ⟨horder₁, -⟩ := expandRule_keeps hr memo horder (by simp)
    rw [hpattern] at horder₁
    obtain ⟨horder₂, -⟩ := expandGroups_keeps r memo₁ horder₁ (by simp)
    rw [hgroups] at horder₂
    obtain ⟨hmemo₁, hextends₁, hlookup⟩ :=
      expandRule_gives hr memo _ _ horder (by simp) hmemo hpattern
    obtain ⟨hmemo₂, hextends₂, hbodies⟩ :=
      expandGroups_gives r memo₁ _ _ horder₁ (by simp) hmemo₁ hgroups
    obtain ⟨hmemo', hextends', hrules⟩ :=
      ih hrest (fun r hr => hrs r (List.mem_cons_of_mem _ hr)) horder₂ hmemo₂
    refine ⟨hmemo', hextends₁.trans (hextends₂.trans hextends'), ?_⟩
    refine List.forall_mem_cons.2 ⟨PatternsBy.mono ⟨hextends₂ _ _ hlookup, hbodies⟩ hextends', ?_⟩
    exact hrules

variable {c : CompiledGrammar} {order : List String}

/-- A compiled rule is found under its name. -/
theorem CompilesTo.find?_of_mem (h : g.CompilesTo c order) {cr : CompiledRule}
    (hcr : cr ∈ c.rules) : c.find? cr.rule.name = some cr := by
  have hget := get?_of_mem h.nodup (h.rule_mem hcr)
  rw [get?, ← h.rules_eq, List.find?_map, Option.map_eq_some_iff] at hget
  obtain ⟨cr', hfind, hrule⟩ := hget
  have hnodup : (c.rules.map fun r => r.rule.name).Nodup := by
    have hnodup := h.nodup
    rwa [← h.rules_eq, List.map_map] at hnodup
  obtain rfl : cr = cr' :=
    List.inj_on_of_nodup_map hnodup hcr (List.mem_of_find?_eq_some hfind) (by rw [hrule])
  exact hfind

/-- What holds of a rule whenever it holds of the rules that it refers to holds of all rules. -/
theorem CompilesTo.induction (h : g.CompilesTo c order) {P : CompiledRule → Prop}
    (step : ∀ cr ∈ c.rules, (∀ name ∈ cr.rule.description.references, ∀ cr',
      c.find? name = some cr' → P cr') → P cr) : ∀ cr ∈ c.rules, P cr := by
  have hrank : ∀ n, ∀ cr ∈ c.rules, order.idxOf cr.rule.name < n → P cr := by
    intro n
    induction n with
    | zero => intro cr _ hlt; omega
    | succ n ih =>
      intro cr hcr hlt
      refine step cr hcr fun name hname cr' hcr' => ?_
      obtain rfl := CompiledGrammar.name_of_find? hcr'
      have := h.rank_lt hcr hname
      exact ih cr' (CompiledGrammar.mem_of_find? hcr') (by omega)
  exact fun cr hcr => hrank _ cr hcr (Nat.lt_succ_self _)

theorem exists_memo_of_compile (h : g.compile = .ok c) :
    ∃ memo, g.Coherent memo ∧ ∀ cr ∈ c.rules, PatternsBy memo cr := by
  obtain ⟨hnodup, rules, memo, hrules, hc⟩ := exists_rules_of_compile h
  obtain ⟨hmemo, -, hpatterns⟩ :=
    compileRules_gives hrules (fun r hr => get?_of_mem hnodup hr) .nil (by simp [Coherent])
  refine ⟨memo, hmemo, fun cr hcr => ?_⟩
  rw [hc] at hcr
  obtain ⟨cr', hcr', rfl⟩ := List.mem_map.1 hcr
  exact hpatterns cr' hcr'

/-- The two patterns of a compiled rule are put together from the patterns of its components. -/
theorem exists_bodies_of_compile (h : g.compile = .ok c) {cr : CompiledRule} (hcr : cr ∈ c.rules) :
    ∃ bodies, Bodies c.pattern? cr.rule.description.components bodies ∧
      cr.pattern = cr.rule.description.assemble bodies ∧
      cr.groupPattern = cr.rule.description.assembleGroups bodies := by
  obtain ⟨order, hc⟩ := exists_order_of_compile h
  obtain ⟨memo, hmemo, hpatterns⟩ := exists_memo_of_compile h
  obtain ⟨hlookup, bodies, hbodies, hgroups⟩ := hpatterns cr hcr
  obtain ⟨r, bodies', hr, hbodies', hpattern⟩ := hmemo _ _ hlookup
  obtain rfl := Option.some.inj (hr.symm.trans (get?_of_mem hc.nodup (hc.rule_mem hcr)))
  obtain rfl := hbodies.unique hbodies'
  refine ⟨bodies, hbodies.mono fun name p hp => ?_, hpattern, hgroups⟩
  obtain ⟨r', -, hr', -⟩ := hmemo name p hp
  have hmem := List.mem_of_find?_eq_some hr'
  rw [← hc.rules_eq] at hmem
  obtain ⟨cr', hcr', rfl⟩ := List.mem_map.1 hmem
  obtain rfl := name_of_get? hr'
  rw [CompiledGrammar.pattern?, hc.find?_of_mem hcr', Option.map_some]
  exact (hpatterns cr' hcr').1.symm.trans hp

/-- A rule that refers to a name is compiled together with the rule that has it. -/
theorem exists_find?_of_mem_references (h : g.compile = .ok c) {cr : CompiledRule}
    (hcr : cr ∈ c.rules) {name : String} (hname : name ∈ cr.rule.description.references) :
    ∃ cr', c.find? name = some cr' := by
  obtain ⟨bodies, hbodies, -, -⟩ := exists_bodies_of_compile h hcr
  obtain ⟨part, hpart, href⟩ := List.mem_filterMap.1 hname
  obtain ⟨body, hbody⟩ := hbodies.exists_body part hpart
  cases part with
  | literal p => simp [Part.ruleName?] at href
  | name n =>
    obtain rfl := Option.some.inj href
    obtain ⟨cr', hcr', -⟩ := Option.map_eq_some_iff.1 hbody
    exact ⟨cr', hcr'⟩

end Grammar

end PatternGrammar
