import PatternGrammar.Proofs.Grammar.Faults

/-!
# The calls of an expansion

Expanding a rule calls itself for the rules that it refers to, with two tables at hand: the memo, and
the names of the rules that are in progress. Neither the rules nor what is left of the references
gets less from call to call, and there may be circles and names that no rule has. What bounds the
calls is that a rule only goes on to others while its name is among those in progress, where no name
stands twice.

`Grammar.expandCalls` keeps both tables as they change, and gives up where more calls would stand
inside one another than it is allowed; `Grammar.Called` are the calls that are made. Whenever it does
not give up, it does what `expandWithin` does, which only hands the names in progress downwards
(`expandCalls_agrees`).

Main result: `Grammar.calls_end`.
-/

namespace PatternGrammar.Grammar

/-! ## Both tables -/

/-- What expanding works with: the patterns so far, and the names of the rules that are being
expanded, from the outermost. -/
structure Expander where
  memo : Memo := []
  inProgress : List String := []
deriving DecidableEq

namespace Expander

/-- A name is in progress from now on. -/
def enter (s : Expander) (name : String) : Expander :=
  ⟨s.memo, s.inProgress ++ [name]⟩

/-- The last name in progress is done, and has a pattern. -/
def leave (s : Expander) (name pattern : String) : Expander :=
  ⟨s.memo ++ [(name, pattern)], s.inProgress.dropLast⟩

/-- What is done with the tables. There is no result where too many calls would stand inside one
another. -/
abbrev Action (α : Type) := Expander → Option (Except ReferenceError α × Expander)

/-- The bodies of a row of components, by a call for each name. -/
def bodies (call : String → Action String) : List Part → Action (List String)
  | [], s => some (.ok [], s)
  | .literal pattern :: parts, s =>
    (bodies call parts s).map fun (rest, s) => (rest.map (pattern :: ·), s)
  | .name name :: parts, s =>
    match call name s with
    | none => none
    | some (.error e, s) => some (.error e, s)
    | some (.ok body, s) => (bodies call parts s).map fun (rest, s) => (rest.map (body :: ·), s)

end Expander

open Expander (Action)

/-- The call for a name in a rule. -/
def callFor (g : Grammar) (call : Rule → Action String) (referrer name : String) : Action String :=
  fun s =>
    match g.get? name with
    | none => some (.error (.unknown referrer name), s)
    | some target => call target s

/-- Expands a rule, with at most the given number of calls inside one another. -/
def expandCalls (g : Grammar) : ℕ → Rule → Action String
  | 0, _, _ => none
  | calls + 1, r, s =>
    match s.memo.lookup r.name with
    | some pattern => some (.ok pattern, s)
    | none =>
      if r.name ∈ s.inProgress then some (.error (.cycle (cyclePath s.inProgress r.name)), s)
      else
        match Expander.bodies (g.callFor (g.expandCalls calls) r.name) r.description.components
          (s.enter r.name) with
        | none => none
        | some (.error e, s) => some (.error e, s)
        | some (.ok bodies, s) =>
          let pattern := r.description.assemble bodies
          some (.ok pattern, s.leave r.name pattern)

/-- The calls that are made: for rules of the grammar, one after another as long as they succeed, and
inside a call for the names of its rule, as long as those before them succeed. -/
inductive Called (g : Grammar) : Rule → Expander → Prop where
  | first {r : Rule} (rule : r ∈ g.rules) : Called g r {}
  | next {r r' : Rule} {s s' : Expander} {calls : ℕ} {pattern : String} (before : Called g r s)
      (outermost : s.inProgress = []) (success : g.expandCalls calls r s = some (.ok pattern, s'))
      (rule : r' ∈ g.rules) : Called g r' s'
  | inner {r target : Rule} {s s' : Expander} {front back : List Part} {name : String} {calls : ℕ}
      {bodies : List String} (around : Called g r s) (unknown : s.memo.lookup r.name = none)
      (fresh : r.name ∉ s.inProgress) (parts : r.description.components = front ++ .name name :: back)
      (success : Expander.bodies (g.callFor (g.expandCalls calls) r.name) front (s.enter r.name) =
        some (.ok bodies, s'))
      (rule : g.get? name = some target) : Called g target s'

variable {g : Grammar} {path : List String}

/-! ## Names in progress that are handed downwards -/

/-- Where the action has a result, with the path in progress, it has that of the expansion, and if it
succeeds, the path is in progress again. -/
def Agrees {α : Type} (path : List String) (act : Action α) (expand : Expanding α) : Prop :=
  ∀ s result s', s.inProgress = path → act s = some (result, s') →
    expand s.memo = (result, s'.memo) ∧ ∀ a, result = .ok a → s'.inProgress = path

theorem bodies_agrees {call : String → Action String} {reference : String → Expanding String}
    (hcall : ∀ name, Agrees path (call name) (reference name)) (parts : List Part) :
    Agrees path (Expander.bodies call parts) (expandParts reference parts) := by
  induction parts with
  | nil =>
    intro s result s' hs h
    obtain ⟨rfl, rfl⟩ := Prod.mk.inj (Option.some.inj h)
    exact ⟨rfl, fun _ _ => hs⟩
  | cons part parts ih =>
    -- a component whose body is known counts like a literal with this body
    have hrest : ∀ body s result s', s.inProgress = path →
        ((Expander.bodies call parts s).map fun (rest, s) => (rest.map (body :: ·), s)) =
          some (result, s') →
        expandParts reference (.literal body :: parts) s.memo = (result, s'.memo) ∧
          ∀ a, result = .ok a → s'.inProgress = path := by
      intro body s result s' hs h
      obtain ⟨⟨rest, s₁⟩, hbodies, heq⟩ := Option.map_eq_some_iff.1 h
      obtain ⟨rfl, rfl⟩ := Prod.mk.inj heq
      obtain ⟨hparts, hpath⟩ := ih s rest s₁ hs hbodies
      simp only [expandParts, hparts]
      cases rest with
      | error e => exact ⟨rfl, fun _ h => by cases h⟩
      | ok bodies => exact ⟨rfl, fun _ _ => hpath bodies rfl⟩
    intro s result s' hs h
    cases part with
    | literal pattern => exact hrest pattern s result s' hs h
    | name name =>
      rw [Expander.bodies] at h
      split at h
      · cases h
      · rename_i e s₁ hfirst
        obtain ⟨rfl, rfl⟩ := Prod.mk.inj (Option.some.inj h)
        rw [expandParts, (hcall name s _ s₁ hs hfirst).1]
        exact ⟨rfl, fun _ h => by cases h⟩
      · rename_i body s₁ hfirst
        obtain ⟨hbody, hpath⟩ := hcall name s _ s₁ hs hfirst
        have hliteral : expandParts reference (.name name :: parts) s.memo =
            expandParts reference (.literal body :: parts) s₁.memo := by
          rw [expandParts, expandParts, hbody]
        rw [hliteral]
        exact hrest body s₁ result s' (hpath body rfl) h

theorem callFor_agrees {call : Rule → Action String} {expand : Rule → Expanding String}
    (hcall : ∀ r, Agrees path (call r) (expand r)) (referrer name : String) :
    Agrees path (g.callFor call referrer name) (g.following referrer expand name) := by
  intro s result s' hs h
  rw [callFor] at h
  rw [following]
  cases hget : g.get? name with
  | none =>
    rw [hget] at h
    obtain ⟨rfl, rfl⟩ := Prod.mk.inj (Option.some.inj h)
    exact ⟨rfl, fun _ h => by cases h⟩
  | some target =>
    rw [hget] at h
    exact hcall target s result s' hs h

/-- Both tables come to what the expansion gives for the memo. -/
theorem expandCalls_agrees (calls : ℕ) (r : Rule) :
    Agrees path (g.expandCalls calls r) (expandWithin g calls path r) := by
  induction calls generalizing path r with
  | zero => exact fun s result s' _ h => by cases h
  | succ calls ih =>
    intro s result s' hs h
    rw [expandCalls] at h
    cases hlookup : s.memo.lookup r.name with
    | some pattern =>
      rw [hlookup] at h
      obtain ⟨rfl, rfl⟩ := Prod.mk.inj (Option.some.inj h)
      exact ⟨by rw [expandWithin, hlookup], fun _ _ => hs⟩
    | none =>
      rw [hlookup] at h
      dsimp only at h
      by_cases hmem : r.name ∈ s.inProgress
      · rw [if_pos hmem] at h
        obtain ⟨rfl, rfl⟩ := Prod.mk.inj (Option.some.inj h)
        refine ⟨?_, fun _ h => by cases h⟩
        rw [expandWithin, hlookup]
        dsimp only
        rw [← hs, if_pos (by simpa using hmem)]
      · rw [if_neg hmem] at h
        rw [expandWithin_succ calls hlookup (hs ▸ hmem)]
        have hentered : (s.enter r.name).inProgress = path ++ [r.name] := by
          rw [Expander.enter, hs]
        have hbodies := bodies_agrees (callFor_agrees (g := g)
          (@ih (path ++ [r.name])) r.name) r.description.components (s.enter r.name)
        split at h
        · cases h
        · rename_i e s₁ hfail
          obtain ⟨rfl, rfl⟩ := Prod.mk.inj (Option.some.inj h)
          have hparts := (hbodies _ s₁ hentered hfail).1
          dsimp only [Expander.enter] at hparts
          rw [hparts]
          exact ⟨rfl, fun _ h => by cases h⟩
        · rename_i bodies s₁ hok
          obtain ⟨rfl, rfl⟩ := Prod.mk.inj (Option.some.inj h)
          obtain ⟨hparts, hpath⟩ := hbodies _ s₁ hentered hok
          dsimp only [Expander.enter] at hparts
          rw [hparts]
          refine ⟨rfl, fun _ _ => ?_⟩
          rw [Expander.leave, hpath bodies rfl, List.dropLast_concat]

/-! ## What is known where a call is made -/

/-- The name leads through references only to names that rules have, and never back to where it came
from. -/
def Settled (g : Grammar) (name : String) : Prop :=
  ∀ ref, Relation.ReflTransGen g.Refers name ref →
    (∃ r ∈ g.rules, r.name = ref) ∧ ¬g.Reaches ref ref

namespace Ordered

variable {names : List String}

/-- What a name of the row refers to stands in the row, further in front. -/
theorem mem_and_idxOf_lt (h : g.Ordered names) (hnodup : (g.rules.map Rule.name).Nodup)
    {name ref : String} (hname : name ∈ names) (href : g.Refers name ref) :
    ref ∈ names ∧ names.idxOf ref < names.idxOf name := by
  obtain ⟨r, hr, rfl, href⟩ := href
  have hget := get?_of_mem hnodup hr
  exact ⟨h.mem_of_mem_references hname hget href, h.rank_lt hname hget href⟩

theorem mem_and_idxOf_lt_of_reaches (h : g.Ordered names) (hnodup : (g.rules.map Rule.name).Nodup)
    {name ref : String} (hname : name ∈ names) (hreach : g.Reaches name ref) :
    ref ∈ names ∧ names.idxOf ref < names.idxOf name := by
  induction hreach with
  | single href => exact h.mem_and_idxOf_lt hnodup hname href
  | tail _ href ih =>
    obtain ⟨hmem, hlt⟩ := h.mem_and_idxOf_lt hnodup ih.1 href
    exact ⟨hmem, Nat.lt_trans hlt ih.2⟩

/-- The names of a row in order are settled. -/
theorem settled (h : g.Ordered names) (hnodup : (g.rules.map Rule.name).Nodup) :
    ∀ name ∈ names, g.Settled name := by
  intro name hname ref hclosure
  have hmem : ref ∈ names := by
    rcases Relation.reflTransGen_iff_eq_or_transGen.1 hclosure with rfl | hreach
    · exact hname
    · exact (h.mem_and_idxOf_lt_of_reaches hnodup hname hreach).1
  constructor
  · obtain ⟨r, hr⟩ := h.exists_rule ref hmem
    exact ⟨r, List.mem_of_find?_eq_some hr, name_of_get? hr⟩
  · exact fun hcircle =>
      Nat.lt_irrefl _ (h.mem_and_idxOf_lt_of_reaches hnodup hmem hcircle).2

end Ordered

/-- The names are different names of rules. -/
structure Distinct (g : Grammar) (names : List String) : Prop where
  nodup : names.Nodup
  exists_rule : ∀ name ∈ names, ∃ r ∈ g.rules, r.name = name

namespace Distinct

theorem nil (g : Grammar) : g.Distinct [] := ⟨List.nodup_nil, by simp⟩

theorem length_le (h : g.Distinct path) : path.length ≤ g.rules.length :=
  CompilesTo.length_le_of_nodup h.nodup h.exists_rule

/-- The name of one more rule is added. -/
theorem snoc (h : g.Distinct path) {r : Rule} (hr : r ∈ g.rules) (hfresh : r.name ∉ path) :
    g.Distinct (path ++ [r.name]) := by
  constructor
  · rw [← List.concat_eq_append]
    exact h.nodup.concat hfresh
  · intro name hname
    rcases List.mem_append.1 hname with hname | hname
    · exact h.exists_rule name hname
    · exact ⟨r, hr, (List.mem_singleton.1 hname).symm⟩

end Distinct

/-- What is known of the tables where a rule is called: the names in progress are different names of
rules and not in the memo, and the names in the memo are in order. -/
structure Ready (g : Grammar) (r : Rule) (s : Expander) : Prop where
  rule_mem : r ∈ g.rules
  distinct : g.Distinct s.inProgress
  ordered : g.Ordered s.memo.names
  apart : ∀ name ∈ s.inProgress, name ∉ s.memo.names

theorem Ready.apart_enter {r : Rule} {s : Expander} (h : g.Ready r s)
    (hunknown : s.memo.lookup r.name = none) :
    ∀ name ∈ (s.enter r.name).inProgress, name ∉ s.memo.names := by
  intro name hname
  rcases List.mem_append.1 hname with hname | hname
  · exact h.apart name hname
  · obtain rfl := List.mem_singleton.1 hname
    exact Memo.lookup_eq_none_iff.1 hunknown

/-- Calls are made where the tables are in order. -/
theorem Called.ready (hnodup : (g.rules.map Rule.name).Nodup) {r : Rule} {s : Expander}
    (h : g.Called r s) : g.Ready r s := by
  induction h with
  | first rule => exact ⟨rule, .nil g, .nil, by simp⟩
  | @next r r' s s' calls pattern _ outermost success rule ih =>
    obtain ⟨hexpand, hpath⟩ := expandCalls_agrees calls r s _ s' outermost success
    have hpath := hpath pattern rfl
    obtain ⟨hordered, -⟩ :=
      expandWithin_keeps calls (get?_of_mem hnodup ih.rule_mem) s.memo ih.ordered
        (by simp : ∀ name ∈ [], name ∉ s.memo.names)
    rw [hexpand] at hordered
    exact ⟨rule, hpath ▸ .nil g, hordered, by simp [hpath]⟩
  | @inner r target s s' front back name calls bodies _ unknown fresh parts success rule ih =>
    obtain ⟨hfront, hpath⟩ := bodies_agrees
      (callFor_agrees (@expandCalls_agrees g (s.enter r.name).inProgress calls) r.name) front
      (s.enter r.name) _ s' rfl success
    have hpath := hpath bodies rfl
    obtain ⟨hordered, hapart, -⟩ := expandParts_keeps (following_keeps r.name
      fun target htarget => @expandWithin_keeps g (s.enter r.name).inProgress calls target htarget)
      front s.memo ih.ordered (ih.apart_enter unknown)
    dsimp only [Expander.enter] at hfront hordered hapart
    rw [hfront] at hordered hapart
    exact ⟨List.mem_of_find?_eq_some rule, hpath ▸ ih.distinct.snoc ih.rule_mem fresh, hordered,
      hpath ▸ hapart⟩

/-! ## Calls that end -/

/-- With the path in progress, the action has a result. No name is in progress twice then, and if it
succeeds, the path is in progress again. -/
def Completes {α : Type} (path : List String) (act : Action α) : Prop :=
  ∀ s, s.inProgress = path → ∃ result s', act s = some (result, s') ∧ s'.inProgress.Nodup ∧
    ∀ a, result = .ok a → s'.inProgress = path

theorem bodies_completes (hnodup : path.Nodup) {call : String → Action String} {parts : List Part}
    (hcall : ∀ name, .name name ∈ parts → Completes path (call name)) :
    Completes path (Expander.bodies call parts) := by
  induction parts with
  | nil => exact fun s hs => ⟨.ok [], s, rfl, hs ▸ hnodup, fun _ _ => hs⟩
  | cons part parts ih =>
    have hrest := ih fun name hname => hcall name (List.mem_cons_of_mem _ hname)
    have hwith : ∀ body s, s.inProgress = path → ∃ result s',
        ((Expander.bodies call parts s).map fun (rest, s) => (rest.map (body :: ·), s)) =
          some (result, s') ∧ s'.inProgress.Nodup ∧
            ∀ a, result = .ok a → s'.inProgress = path := by
      intro body s hs
      obtain ⟨rest, s', hbodies, hnodup', hpath⟩ := hrest s hs
      refine ⟨rest.map (body :: ·), s', by rw [hbodies]; rfl, hnodup', ?_⟩
      cases rest with
      | error e => exact fun _ h => by cases h
      | ok bodies => exact fun _ _ => hpath bodies rfl
    intro s hs
    cases part with
    | literal pattern => exact hwith pattern s hs
    | name name =>
      obtain ⟨result, s₁, hfirst, hnodup₁, hpath₁⟩ := hcall name List.mem_cons_self s hs
      rw [Expander.bodies, hfirst]
      cases result with
      | error e => exact ⟨.error e, s₁, rfl, hnodup₁, fun _ h => by cases h⟩
      | ok body => exact hwith body s₁ (hpath₁ body rfl)

theorem callFor_completes (hnodup : path.Nodup) {call : Rule → Action String} {name : String}
    (hcall : ∀ target, g.get? name = some target → Completes path (call target))
    (referrer : String) : Completes path (g.callFor call referrer name) := by
  intro s hs
  rw [callFor]
  cases hget : g.get? name with
  | none => exact ⟨_, s, rfl, hs ▸ hnodup, fun _ h => by cases h⟩
  | some target => exact hcall target hget s hs

/-- As many calls inside one another are enough as there are rules that are not in progress, and one
more. -/
theorem expandCalls_completes {calls : ℕ} {r : Rule} (hr : r ∈ g.rules)
    (hcalls : g.rules.length < calls + path.length) (hdistinct : g.Distinct path) :
    Completes path (g.expandCalls calls r) := by
  induction calls generalizing path r with
  | zero =>
    have := hdistinct.length_le
    omega
  | succ calls ih =>
    intro s hs
    have hnodup : s.inProgress.Nodup := hs ▸ hdistinct.nodup
    rw [expandCalls]
    cases hlookup : s.memo.lookup r.name with
    | some pattern => exact ⟨.ok pattern, s, rfl, hnodup, fun _ _ => hs⟩
    | none =>
      dsimp only
      by_cases hmem : r.name ∈ s.inProgress
      · rw [if_pos hmem]
        exact ⟨_, s, rfl, hnodup, fun _ h => by cases h⟩
      · rw [if_neg hmem]
        have hentered : (s.enter r.name).inProgress = path ++ [r.name] := by
          rw [Expander.enter, hs]
        have hbelow := hdistinct.snoc hr (hs ▸ hmem)
        have hcalls : ∀ name, Completes (path ++ [r.name])
            (g.callFor (g.expandCalls calls) r.name name) := by
          refine fun name => callFor_completes hbelow.nodup (fun target htarget => ?_) r.name
          refine ih (List.mem_of_find?_eq_some htarget) ?_ hbelow
          rw [List.length_append, List.length_singleton]
          omega
        have hparts : Completes (path ++ [r.name]) (Expander.bodies
            (g.callFor (g.expandCalls calls) r.name) r.description.components) :=
          bodies_completes hbelow.nodup fun name _ => hcalls name
        obtain ⟨result, s₁, hbodies, hnodup₁, hpath₁⟩ := hparts (s.enter r.name) hentered
        rw [hbodies]
        cases result with
        | error e => exact ⟨.error e, s₁, rfl, hnodup₁, fun _ h => by cases h⟩
        | ok bodies =>
          -- the name that entered last is the one that leaves
          have hleave : ∀ pattern, (s₁.leave r.name pattern).inProgress = path := by
            intro pattern
            rw [Expander.leave, hpath₁ bodies rfl, List.dropLast_concat]
          exact ⟨_, _, rfl, hleave _ ▸ hdistinct.nodup, fun _ _ => hleave _⟩

/-- Where the names in progress leave enough calls, a call does what the expansion does. -/
theorem exists_expandCalls_eq {calls : ℕ} {r : Rule} (hr : r ∈ g.rules) {s : Expander}
    (hcalls : g.rules.length < calls + s.inProgress.length) (hdistinct : g.Distinct s.inProgress) :
    ∃ result s', g.expandCalls calls r s = some (result, s') ∧
      expandWithin g calls s.inProgress r s.memo = (result, s'.memo) ∧ s'.inProgress.Nodup ∧
      ∀ pattern, result = .ok pattern → s'.inProgress = s.inProgress := by
  obtain ⟨result, s', hend, hnodup, hpath⟩ := expandCalls_completes hr hcalls hdistinct s rfl
  exact ⟨result, s', hend, (expandCalls_agrees calls r s result s' rfl hend).1, hnodup, hpath⟩

/-! ## The calls of compiling -/

/-- Each rule can be called next. -/
def Reached (g : Grammar) (memo : Memo) : Prop := ∀ r ∈ g.rules, g.Called r ⟨memo, []⟩

theorem Reached.after_rule {memo memo' : Memo} (h : g.Reached memo) {r : Rule} (hr : r ∈ g.rules)
    {pattern : String} (hpattern : expandRule g r memo = (.ok pattern, memo')) :
    g.Reached memo' := by
  obtain ⟨result, ⟨memo₁, path₁⟩, hend, hexpand, -, hpath⟩ := exists_expandCalls_eq
    (s := ⟨memo, []⟩) hr (Nat.lt_succ_self g.rules.length) (.nil g)
  obtain ⟨rfl, rfl⟩ := Prod.mk.inj (hpattern.symm.trans hexpand)
  obtain rfl : path₁ = [] := hpath pattern rfl
  exact fun r' hr' => .next (h r hr) rfl hend hr'

theorem Reached.after_parts {memo memo' : Memo} (h : g.Reached memo) {referrer : String}
    {parts : List Part} {bodies : List String}
    (hbodies : expandParts (g.following referrer (expandRule g)) parts memo = (.ok bodies, memo')) :
    g.Reached memo' := by
  induction parts generalizing memo bodies with
  | nil =>
    obtain ⟨-, rfl⟩ := Prod.mk.inj hbodies
    exact h
  | cons part parts ih =>
    cases part with
    | literal pattern =>
      rw [expandParts] at hbodies
      split at hbodies
      · simp at hbodies
      · rename_i rest memo₁ hrest
        obtain ⟨-, rfl⟩ := Prod.mk.inj hbodies
        exact ih h hrest
    | name name =>
      rw [expandParts] at hbodies
      cases hfirst : g.following referrer (expandRule g) name memo with
      | mk body memo₁ =>
        rw [hfirst] at hbodies
        cases body with
        | error e => simp at hbodies
        | ok body =>
          dsimp only at hbodies
          split at hbodies
          · simp at hbodies
          · rename_i rest memo₂ hrest
            obtain ⟨-, rfl⟩ := Prod.mk.inj hbodies
            rw [following] at hfirst
            cases hget : g.get? name with
            | none => simp [hget] at hfirst
            | some target =>
              rw [hget] at hfirst
              exact ih (h.after_rule (List.mem_of_find?_eq_some hget) hfirst) hrest

theorem Reached.after_rules {rs : List Rule} {memo memo' : Memo} (h : g.Reached memo)
    (hrs : ∀ r ∈ rs, r ∈ g.rules) {rules : List CompiledRule}
    (hrules : compileRules g rs memo = (.ok rules, memo')) : g.Reached memo' := by
  induction rs generalizing memo rules with
  | nil =>
    obtain ⟨-, rfl⟩ := Prod.mk.inj hrules
    exact h
  | cons r rs ih =>
    obtain ⟨hr, hrs⟩ := List.forall_mem_cons.1 hrs
    obtain ⟨pattern, groupPattern, -, -, rest, memo₁, memo₂, hpattern, hgroups, -, -, hrest, -⟩ :=
      compileRules_cons hrules
    rw [expandGroups_eq] at hgroups
    split at hgroups
    · simp at hgroups
    · rename_i bodies memo₃ hbodies
      obtain ⟨-, rfl⟩ := Prod.mk.inj hgroups
      exact ih ((h.after_rule hr hpattern).after_parts hbodies) hrs hrest

/-- For rules with different names, whether or not there are circles or names without a rule:
compiling calls the rules one after another. In each call that is made, also below such a one, the
names in progress are different, also with that of the rule if it joins them, and they are no more
than the rules. The call ends, with at most one call more inside one another than there are rules that
are not in progress. It does what the expansion with these names does. Also at its end the names in
progress are different; if it succeeds, they are what they were. The memo only holds names from which
all references lead to rules and none leads in a circle. -/
theorem calls_end (hnodup : (g.rules.map Rule.name).Nodup) :
    (∀ front r back, g.rules = front ++ r :: back → ∀ rules memo,
      compileRules g front [] = (.ok rules, memo) → g.Called r ⟨memo, []⟩) ∧
    ∀ r s, g.Called r s →
      s.inProgress.Nodup ∧ s.inProgress.length ≤ g.rules.length ∧
      (r.name ∉ s.inProgress → (s.enter r.name).inProgress.Nodup) ∧
      ∃ result s',
        g.expandCalls (g.rules.length + 1 - s.inProgress.length) r s = some (result, s') ∧
        expandWithin g (g.rules.length + 1 - s.inProgress.length) s.inProgress r s.memo =
          (result, s'.memo) ∧
        s'.inProgress.Nodup ∧
        (∀ pattern, result = .ok pattern → s'.inProgress = s.inProgress) ∧
        ∀ name ∈ s'.memo.names, g.Settled name := by
  constructor
  · intro front r back hrules rules memo hfront
    have hstart : g.Reached [] := fun r hr => .first hr
    have hmem : ∀ r' ∈ front, r' ∈ g.rules := fun r' hr' => hrules ▸ List.mem_append_left _ hr'
    exact hstart.after_rules hmem hfront r (hrules ▸ by simp)
  · intro r s h
    have hready := h.ready hnodup
    have hlength := hready.distinct.length_le
    have henough : g.rules.length <
        g.rules.length + 1 - s.inProgress.length + s.inProgress.length := by omega
    obtain ⟨result, s', hend, hexpand, hnodup', hpath⟩ :=
      exists_expandCalls_eq hready.rule_mem henough hready.distinct
    obtain ⟨hordered, -⟩ := expandWithin_keeps (g.rules.length + 1 - s.inProgress.length)
      (get?_of_mem hnodup hready.rule_mem) s.memo hready.ordered hready.apart
    rw [hexpand] at hordered
    exact ⟨hready.distinct.nodup, hlength,
      fun hfresh => (hready.distinct.snoc hready.rule_mem hfresh).nodup, result, s', hend, hexpand,
      hnodup', hpath, hordered.settled hnodup⟩

/-- A rule that is finished inside a circle, and the last rule of the circle, which fails. -/
theorem calls_end_circling :
    (circling.rules.map Rule.name).Nodup ∧
      (∃ s, circling.expandCalls 5 ⟨"leaf", .literal "x"⟩ ⟨[], ["top"]⟩ = some (.ok "x", s) ∧
        s.inProgress = ["top"] ∧ circling.Settled "leaf") ∧
      ∃ s, circling.expandCalls 3 ⟨"c", .repetition "a" 1 none⟩
          ⟨[("leaf", "x")], ["top", "a", "b"]⟩ = some (.error (.cycle ["a", "b", "c", "a"]), s) ∧
        s.inProgress.Nodup := by
  have hnodup : (circling.rules.map Rule.name).Nodup := by decide
  have htop : circling.Called ⟨"top", .composition [.name "leaf", .name "a"]⟩ {} :=
    .first (by decide)
  have hleaf : circling.Called ⟨"leaf", .literal "x"⟩ ⟨[], ["top"]⟩ :=
    @Called.inner _ _ _ _ _ [] _ "leaf" 0 _ htop rfl (by decide) rfl rfl rfl
  have ha : circling.Called ⟨"a", .composition [.name "leaf", .name "b"]⟩
      ⟨[("leaf", "x")], ["top"]⟩ :=
    @Called.inner _ _ _ _ _ [.name "leaf"] _ "a" 1 _ htop rfl (by decide) rfl rfl rfl
  have hb : circling.Called ⟨"b", .choice ["leaf", "c"]⟩ ⟨[("leaf", "x")], ["top", "a"]⟩ :=
    @Called.inner _ _ _ _ _ [.name "leaf"] _ "b" 1 _ ha rfl (by decide) rfl rfl rfl
  have hc : circling.Called ⟨"c", .repetition "a" 1 none⟩
      ⟨[("leaf", "x")], ["top", "a", "b"]⟩ :=
    @Called.inner _ _ _ _ _ [.name "leaf"] _ "c" 1 _ hb rfl (by decide) rfl rfl rfl
  obtain ⟨-, hcalls⟩ := calls_end hnodup
  obtain ⟨-, -, -, result, s, hend, -, -, hpath, hsettled⟩ := hcalls _ _ hleaf
  obtain ⟨-, -, -, result', s', hend', -, hnodup', -⟩ := hcalls _ _ hc
  obtain ⟨rfl, rfl⟩ := Prod.mk.inj (Option.some.inj hend)
  obtain ⟨rfl, rfl⟩ := Prod.mk.inj (Option.some.inj hend')
  exact ⟨hnodup, ⟨_, hend, hpath _ rfl, hsettled "leaf" (by decide)⟩, _, hend', hnodup'⟩

end PatternGrammar.Grammar
