import Mathlib.Data.List.Chain
import PatternGrammar.Proofs.Grammar.Validity

/-!
# What errors of compiling tell

An error of compiling shows what is wrong with the grammar (`CompileError.Shows`): a circle of
references, a reference to a name that no rule has, a rule whose name is taken, or a pattern of a rule
that is no regular expression.

The names on the path of an expansion are different and each refers to the next (`Grammar.Leads`).
A circle is cut out of this path where its first name stands, so that what led to the circle from
outside does not belong to it; rules that were finished on the way have left the path.

Main results:

* `Grammar.expandWithin_fails`: an expansion fails by an error that shows something about references.
* `Grammar.compile_error_shows`: so does compiling, with what else can be wrong.
-/

namespace PatternGrammar

namespace Grammar

/-- The path begins and ends with the same name and has no name twice apart from that, and the rule
of each name refers to the next. -/
structure Circle (g : Grammar) (path : List String) : Prop where
  two_le : 2 ≤ path.length
  closed : path.head? = path.getLast?
  nodup : path.dropLast.Nodup
  refers : path.IsChain g.Refers

end Grammar

/-- The error shows what is wrong with the references of a grammar. -/
def ReferenceError.Shows (g : Grammar) : ReferenceError → Prop
  | .cycle path => g.Circle path
  | .unknown rule reference => g.Refers rule reference ∧ ∀ r ∈ g.rules, r.name ≠ reference

/-- The error shows what is wrong with a grammar. -/
def CompileError.Shows (g : Grammar) : CompileError → Prop
  | .emptyGrammar => g.rules = []
  | .duplicateRule name => ∃ front r back, g.rules = front ++ r :: back ∧ r.name = name ∧
      (∃ r' ∈ front, r'.name = name) ∧ (front.map Rule.name).Nodup
  | .reference e => e.Shows g
  | .invalidPattern rule pattern fault => ∃ r ∈ g.rules, r.name = rule ∧
      Regex.compile pattern = .error fault ∧
      (pattern = g.patternOf r ∨ pattern = Grammar.anchored (g.groupPatternOf r) ∧
        ∃ re, Regex.compile (g.patternOf r) = .ok re)

namespace Grammar

variable {g : Grammar}

/-! ## Names that are taken -/

theorem exists_split_of_firstDuplicate? {rules : List Rule} {seen : List String} {name : String}
    (h : firstDuplicate? seen (rules.map Rule.name) = some name) :
    ∃ front r back, rules = front ++ r :: back ∧ r.name = name ∧
      (name ∈ seen ∨ ∃ r' ∈ front, r'.name = name) ∧ (front.map Rule.name).Nodup ∧
      ∀ r' ∈ front, r'.name ∉ seen := by
  induction rules generalizing seen with
  | nil => simp [firstDuplicate?] at h
  | cons first rules ih =>
    rw [List.map_cons, firstDuplicate?] at h
    split at h
    · rename_i hseen
      have hname := Option.some.inj h
      have hmem : first.name ∈ seen := by simpa using hseen
      exact ⟨[], first, rules, rfl, hname, .inl (hname ▸ hmem), List.nodup_nil, by simp⟩
    · rename_i hseen
      obtain ⟨front, r, back, rfl, hname, htaken, hnodup, hfresh⟩ := ih h
      have hnot : first.name ∉ seen := by simpa using hseen
      refine ⟨first :: front, r, back, rfl, hname, ?_, ?_, ?_⟩
      · rcases htaken with htaken | ⟨r', hr', hname'⟩
        · rcases List.mem_cons.1 htaken with htaken | htaken
          · exact .inr ⟨first, List.mem_cons_self, htaken.symm⟩
          · exact .inl htaken
        · exact .inr ⟨r', List.mem_cons_of_mem _ hr', hname'⟩
      · -- the names behind the first one were not seen, and it was among the seen ones for them
        rw [List.map_cons, List.nodup_cons]
        refine ⟨fun hmem => ?_, hnodup⟩
        obtain ⟨r', hr', hsame⟩ := List.mem_map.1 hmem
        have hnew := hfresh r' hr'
        rw [hsame] at hnew
        exact hnew List.mem_cons_self
      · intro r' hr'
        rcases List.mem_cons.1 hr' with rfl | hr'
        · exact hnot
        · intro hmem
          exact hfresh r' hr' (List.mem_cons_of_mem _ hmem)

/-! ## Paths of expansions -/

/-- The names on the path are different, each refers to the next, and the last one to `name`. -/
structure Leads (g : Grammar) (path : List String) (name : String) : Prop where
  nodup : path.Nodup
  refers : (path ++ [name]).IsChain g.Refers

namespace Leads

variable {path : List String} {name : String}

theorem nil (g : Grammar) (name : String) : g.Leads [] name :=
  ⟨List.nodup_nil, List.isChain_singleton name⟩

/-- A path goes on to a name that its last rule refers to. -/
theorem snoc (h : g.Leads path name) (hnot : name ∉ path) {ref : String}
    (href : g.Refers name ref) : g.Leads (path ++ [name]) ref := by
  constructor
  · rw [List.nodup_append]
    refine ⟨h.nodup, List.nodup_singleton name, ?_⟩
    rintro a ha b hb rfl
    obtain rfl := List.mem_singleton.1 hb
    exact hnot ha
  · apply h.refers.append (List.isChain_singleton ref)
    intro a ha b hb
    have hlast : a = name := by simpa using ha.symm
    have hhead : b = ref := by simpa using hb.symm
    rw [hlast, hhead]
    exact href

theorem exists_rule (h : g.Leads path name) : ∀ n ∈ path, ∃ r ∈ g.rules, r.name = n := by
  intro n hn
  obtain ⟨front, back, rfl⟩ := List.append_of_mem hn
  -- behind each name of the path stands another one, which it refers to
  obtain ⟨next, rest, hnext⟩ : ∃ next rest, back ++ [name] = next :: rest :=
    List.exists_cons_of_ne_nil (by simp)
  have hchain := h.refers
  rw [List.append_assoc, List.cons_append, hnext] at hchain
  obtain ⟨-, hback⟩ := List.isChain_append_cons_cons.1 hchain
  obtain ⟨r, hr, hname, -⟩ := hback.1
  exact ⟨r, hr, hname⟩

theorem length_le (h : g.Leads path name) : path.length ≤ g.rules.length :=
  CompilesTo.length_le_of_nodup h.nodup h.exists_rule

/-- A path that comes back to a name on it is closed to a circle. -/
theorem circle (h : g.Leads path name) (hmem : name ∈ path) : g.Circle (cyclePath path name) := by
  obtain ⟨front, back, rfl, hfront⟩ := List.eq_append_cons_of_mem hmem
  have hdrop : (front ++ name :: back).dropWhile (· != name) = name :: back := by
    rw [List.dropWhile_append_of_pos]
    · rw [List.dropWhile_cons_of_neg (by simp)]
    · intro n hn
      have hne : n ≠ name := fun heq => hfront (heq ▸ hn)
      simpa using hne
  rw [cyclePath, hdrop]
  refine ⟨?_, ?_, ?_, ?_⟩
  · simp
  · rw [List.getLast?_concat, List.cons_append, List.head?_cons]
  · rw [List.dropLast_concat]
    exact (List.nodup_append.1 h.nodup).2.1
  · have hchain := h.refers
    rw [List.append_assoc] at hchain
    exact hchain.right_of_append

end Leads

/-! ## Expansions that fail -/

/-- Whatever the memo, the expansion only fails by errors with the property. -/
def Fails {α : Type} (P : ReferenceError → Prop) (expand : Expanding α) : Prop :=
  ∀ memo memo' e, expand memo = (.error e, memo') → P e

theorem error_inj {ε α : Type} {e e' : ε} {memo memo' : Memo}
    (h : ((.error e, memo) : Except ε α × Memo) = (.error e', memo')) : e = e' :=
  Except.error.inj (Prod.mk.inj h).1

theorem expandParts_fails {P : ReferenceError → Prop} {reference : String → Expanding String}
    {parts : List Part} (href : ∀ name, .name name ∈ parts → Fails P (reference name)) :
    Fails P (expandParts reference parts) := by
  induction parts with
  | nil =>
    intro memo memo' e h
    simp [expandParts] at h
  | cons part parts ih =>
    have hrest := ih fun n hn => href n (List.mem_cons_of_mem _ hn)
    intro memo memo' e h
    cases part with
    | literal pattern =>
      rw [expandParts] at h
      split at h
      · rename_i e' memo₁ hparts
        obtain rfl := error_inj h
        exact hrest memo memo₁ e' hparts
      · simp at h
    | name name =>
      rw [expandParts] at h
      cases hfirst : reference name memo with
      | mk body memo₁ =>
        rw [hfirst] at h
        cases body with
        | error e' =>
          obtain rfl := error_inj h
          exact href name List.mem_cons_self memo memo₁ e' hfirst
        | ok body =>
          dsimp only at h
          split at h
          · rename_i e' memo₂ hparts
            obtain rfl := error_inj h
            exact hrest memo₁ memo₂ e' hparts
          · simp at h

/-- A reference fails because no rule has the name, or as the expansion of the rule that has it. -/
theorem following_fails {r : Rule} (hr : r ∈ g.rules) {ref : String}
    (href : ref ∈ r.description.references) {expand : Rule → Expanding String}
    (hexpand : ∀ target, g.get? ref = some target → Fails (·.Shows g) (expand target)) :
    Fails (·.Shows g) (g.following r.name expand ref) := by
  intro memo memo' e h
  rw [following] at h
  cases hget : g.get? ref with
  | none =>
    rw [hget] at h
    obtain rfl := error_inj h
    refine ⟨⟨r, hr, rfl, href⟩, fun r' hr' hname => ?_⟩
    have hnone := List.find?_eq_none.1 hget r' hr'
    simp [hname] at hnone
  | some target =>
    rw [hget] at h
    exact hexpand target hget memo memo' e h

/-- An expansion fails by an error that shows something about references, where the path leads to the
rule and the depth is more than what the path leaves of the rules. -/
theorem expandWithin_fails {depth : ℕ} {path : List String} {r : Rule} (hr : r ∈ g.rules)
    (hdepth : g.rules.length < depth + path.length) (hleads : g.Leads path r.name) :
    Fails (·.Shows g) (expandWithin g depth path r) := by
  induction depth generalizing path r with
  | zero =>
    have hlength := hleads.length_le
    omega
  | succ depth ih =>
    intro memo memo' e h
    cases hlookup : memo.lookup r.name with
    | some pattern =>
      rw [expandWithin, hlookup] at h
      simp at h
    | none =>
      by_cases hmem : r.name ∈ path
      · rw [expandWithin, hlookup] at h
        dsimp only at h
        rw [if_pos (by simpa using hmem)] at h
        obtain rfl := error_inj h
        exact hleads.circle hmem
      · rw [expandWithin_succ depth hlookup hmem] at h
        have hparts : Fails (·.Shows g) (expandParts
            (g.following r.name (expandWithin g depth (path ++ [r.name])))
            r.description.components) := by
          apply expandParts_fails
          intro ref href
          have href := mem_references_of_mem_components href
          apply following_fails hr href
          intro target htarget
          obtain rfl := name_of_get? htarget
          apply ih (List.mem_of_find?_eq_some htarget)
          · rw [List.length_append, List.length_singleton]
            omega
          · exact hleads.snoc hmem ⟨r, hr, rfl, href⟩
        split at h
        · rename_i e' memo₁ hfail
          obtain rfl := error_inj h
          exact hparts memo memo₁ e' hfail
        · simp at h

theorem expandRule_fails {r : Rule} (hr : r ∈ g.rules) :
    Fails (·.Shows g) (expandRule g r) := by
  apply expandWithin_fails hr
  · simp
  · exact Leads.nil g r.name

theorem expandGroups_fails {r : Rule} (hr : r ∈ g.rules) :
    Fails (·.Shows g) (expandGroups g r) := by
  have hparts : Fails (·.Shows g) (expandParts (g.following r.name (expandRule g))
      r.description.components) := by
    apply expandParts_fails
    intro ref href
    apply following_fails hr (mem_references_of_mem_components href)
    intro target htarget
    exact expandRule_fails (List.mem_of_find?_eq_some htarget)
  intro memo memo' e h
  rw [expandGroups_eq] at h
  split at h
  · rename_i e' memo₁ hfail
    obtain rfl := error_inj h
    exact hparts memo memo₁ e' hfail
  · simp at h

/-! ## Rules that are compiled -/

theorem compilePattern_eq_error {r : Rule} {pattern : String} {e : CompileError}
    (h : compilePattern r pattern = .error e) :
    ∃ fault, Regex.compile pattern = .error fault ∧ e = .invalidPattern r.name pattern fault := by
  unfold compilePattern at h
  split at h
  · simp at h
  · rename_i fault hfault
    exact ⟨fault, hfault, (Except.error.inj h).symm⟩

/-- Compiling the rules of a row fails by an error that shows what is wrong. -/
theorem compileRules_error_shows {rs : List Rule} (hrs : ∀ r ∈ rs, g.get? r.name = some r)
    {memo memo' : Memo} {e : CompileError} (horder : g.Ordered memo.names)
    (hmemo : g.Coherent memo) (h : compileRules g rs memo = (.error e, memo')) : e.Shows g := by
  induction rs generalizing memo with
  | nil => simp [compileRules] at h
  | cons r rs ih =>
    have hget := hrs r List.mem_cons_self
    have hr := List.mem_of_find?_eq_some hget
    rw [compileRules] at h
    split at h
    · rename_i fault memo₁ hfault
      obtain rfl := error_inj h
      exact expandRule_fails hr memo memo₁ fault hfault
    · rename_i pattern memo₁ hpattern
      split at h
      · rename_i fault memo₂ hfault
        obtain rfl := error_inj h
        exact expandGroups_fails hr memo₁ memo₂ fault hfault
      · rename_i groupPattern memo₂ hgroups
        obtain ⟨hplain, hgrouped, horder₂, hmemo₂⟩ :=
          patterns_of_expand hget horder hmemo hpattern hgroups
        split at h
        · rename_i e' hmatcher
          obtain rfl := error_inj h
          obtain ⟨fault, hfault, rfl⟩ := compilePattern_eq_error hmatcher
          exact ⟨r, hr, rfl, hfault, .inl hplain⟩
        · rename_i e' hanchored hplainOk
          obtain rfl := error_inj h
          obtain ⟨fault, hfault, rfl⟩ := compilePattern_eq_error hanchored
          refine ⟨r, hr, rfl, hfault, .inr ⟨by rw [hgrouped], ?_⟩⟩
          cases hmatcher : compilePattern r pattern with
          | error e'' => exact absurd hmatcher (hplainOk e'')
          | ok re =>
            rw [← hplain]
            exact ⟨re, compilePattern_eq_ok hmatcher⟩
        · split at h
          · rename_i e' memo₃ hrest
            obtain ⟨he, rfl⟩ := Prod.mk.inj h
            obtain rfl := Except.error.inj he
            exact ih (fun r' hr' => hrs r' (List.mem_cons_of_mem _ hr')) horder₂ hmemo₂ hrest
          · simp at h

/-- For any row of rules: where compiling fails, its error shows what is wrong. -/
theorem compile_error_shows {e : CompileError} (h : g.compile = .error e) : e.Shows g := by
  unfold compile compileWithMemo at h
  split at h
  · rename_i hempty
    obtain rfl := Except.error.inj h
    exact List.isEmpty_iff.1 hempty
  · rename_i hempty
    split at h
    · rename_i name hdup
      obtain rfl := Except.error.inj h
      obtain ⟨front, r, back, hrules, hname, htaken, hnodup, -⟩ :=
        exists_split_of_firstDuplicate? hdup
      refine ⟨front, r, back, hrules, hname, ?_, hnodup⟩
      simpa using htaken
    · rename_i hdup
      have hnodup := (not_mem_of_firstDuplicate? hdup).1
      have hget : ∀ r ∈ g.rules, g.get? r.name = some r := fun r hr => get?_of_mem hnodup hr
      split at h
      · rename_i e' memo hrules
        obtain rfl := Except.error.inj h
        exact compileRules_error_shows hget .nil (by simp [Coherent]) hrules
      · rename_i rules memo hrules
        obtain ⟨heq, -⟩ := compileRules_eq_ok hrules hget .nil
        split at h
        · -- there is a compiled rule for each rule
          rename_i hnil
          obtain rfl := List.map_eq_nil_iff.1 hnil
          rw [← heq] at hempty
          simp at hempty
        · simp at h

/-- A circle that is entered from outside, and between whose rules a finished one is referred to. -/
def circling : Grammar :=
  ⟨[⟨"top", .composition [.name "leaf", .name "a"]⟩, ⟨"leaf", .literal "x"⟩,
    ⟨"a", .composition [.name "leaf", .name "b"]⟩, ⟨"b", .choice ["leaf", "c"]⟩,
    ⟨"c", .repetition "a" 1 none⟩]⟩

theorem compile_error_shows_circling :
    circling.compile = .error (.reference (.cycle ["a", "b", "c", "a"])) ∧
      circling.Circle ["a", "b", "c", "a"] := by
  have hcompile : circling.compile = .error (.reference (.cycle ["a", "b", "c", "a"])) := by rfl
  exact ⟨hcompile, compile_error_shows hcompile⟩

end Grammar

end PatternGrammar
