import PatternGrammar.Proofs.Grammar.Groups
import PatternGrammar.Proofs.Tree.Guard

/-!
# Building trees by recursion

A recursive definition of the tree of an input. It has no stack and no arena: searching a rule in a
span gives the trees of its matches, from left to right, and the tree of a match is finished before
the next one is begun. It passes over nothing: a rule that is not there, a part of a composition
without a group or a choice without exactly one alternative that was taken would be a failure of its
own (`Recursion.Failure.missing`).

Main definitions: `Recursion.search`, `Recursion.build`.

Main result: `Recursion.inside_eq` — for a grammar that compiles nothing is missing.
-/

namespace PatternGrammar

open PatternGrammar.Text (Span slice slice? byteSize wholeSpan span_of_slice? slice_eq_of_slice?)

theorem exists_ok_of_map {ε α β : Type} {x : Except ε α} {f : α → β} {y : β}
    (h : x.map f = .ok y) : ∃ a, x = .ok a ∧ f a = y := by
  cases x with
  | error e => exact nomatch h
  | ok a => exact ⟨a, rfl, Except.ok.inj h⟩

namespace Recursion

/-- Why a tree cannot be built by recursion. -/
inductive Failure where
  /-- A search is deeper than allowed. -/
  | tooDeep (e : DepthExceeded)
  /-- A rule or a group that is needed is not there. -/
  | missing

/-- The rule with a name, which has to be there. -/
def lookUp (c : CompiledGrammar) (name : String) : Except Failure CompiledRule :=
  match c.find? name with
  | some r => .ok r
  | none => .error .missing

/-- The named parts of a composition with what their groups captured. There has to be one group for
each part. -/
def captured : List Part → List (Option Span) → Except Failure (List (String × Span))
  | [], [] => .ok []
  | .name name :: parts, some group :: groups =>
    (captured parts groups).map fun rest => (name, group) :: rest
  | .literal _ :: parts, some _ :: groups => captured parts groups
  | _, _ => .error .missing

/-- The alternative of a choice that was taken, with what its group captured. It has to be the only
one with a group. -/
def taken : List String → List (Option Span) → Except Failure (String × Span)
  | name :: names, some group :: groups =>
    if groups = names.map fun _ => none then .ok (name, group) else .error .missing
  | _ :: names, none :: groups => taken names groups
  | _, _ => .error .missing

/-- The rules, by name, that an explanation of a span leads to, and where they are searched: the
named parts of a composition in their groups, the alternative of a choice that was taken in its
group, the rule of a repetition in the whole span. -/
def components (e : Explanation) (span : Span) : Except Failure (List (String × Span)) :=
  match e.rule.description with
  | .composition parts =>
    (captured parts e.groups).map fun found => found.map fun (name, group) =>
      (name, group.shift span.start)
  | .choice alternatives =>
    (taken alternatives e.groups).map fun (name, group) => [(name, group.shift span.start)]
  | .repetition rule _ _ => .ok [(rule, span)]
  | .literal _ => .error .missing

/-- The rules that an explanation of a span leads to, and where they are searched. -/
def inside (c : CompiledGrammar) (e : Explanation) (span : Span) :
    Except Failure (List (CompiledRule × Span)) := do
  (← components e span).mapM fun (name, group) => return (← lookUp c name, group)

/-- The spans of the matches of a rule in a span that are not empty, in order. -/
def hits (input : String) (r : CompiledRule) (span : Span) : List Span :=
  ((r.matcher.findAll (slice input span)).filter fun m => m.start != m.stop).map
    (·.shift span.start)

section

variable (c : CompiledGrammar) (input : String)
  (searching : List (String × Span) → CompiledRule → Span → Except Failure (List Tree))

/-- The trees inside an explained span: those of the searches that the explanation leads to, one
after another. `path` are the nodes down to the one that they are put below. -/
def descend (path : List (String × Span)) (e : Explanation) (span : Span) :
    Except Failure (List Tree) := do
  let trees ← (← inside c e span).mapM fun (r, group) => searching path r group
  return trees.flatten

/-- The tree of a match of a rule. `path` are the nodes above it. -/
def attach (path : List (String × Span)) (r : CompiledRule) (m : Span) : Except Failure Tree :=
  let text := slice input m
  let here := (r.rule.name, m) :: path
  match c.explain text r.rule.name with
  | none => .ok (.node r.rule m text [])
  | some e =>
    if e.rule.name = r.rule.name then (descend c searching here e m).map (.node r.rule m text)
    else if (e.rule.name, m) ∈ here then .ok (.node r.rule m text [])
    else
      (descend c searching ((e.rule.name, m) :: here) e m).map fun below =>
        .node r.rule m text [.node e.rule m text below]

end

/-- The trees that searching a rule in a span gives: one for each match that is not empty. -/
def search (c : CompiledGrammar) (input : String) (maxDepth depth : ℕ)
    (path : List (String × Span)) (r : CompiledRule) (span : Span) : Except Failure (List Tree) :=
  if _ : maxDepth < depth then .error (.tooDeep ⟨maxDepth, r.rule.name, span⟩)
  else
    (hits input r span).mapM fun m =>
      attach c input (fun path r span => search c input maxDepth (depth + 1) path r span) path r m
termination_by maxDepth + 1 - depth

/-- The trees below the root: the explanation of the whole input, if there is one, and else the
matches of the start rule. -/
def topLevel (c : CompiledGrammar) (input : String) (maxDepth : ℕ) : Except Failure (List Tree) :=
  let whole := wholeSpan input
  match if input = "" then none else c.explain input "" with
  | some e =>
    (descend c (search c input maxDepth 1) [(e.rule.name, whole)] e whole).map fun below =>
      [.node e.rule whole input below]
  | none => search c input maxDepth 1 [] c.first whole

/-- The tree of an input. -/
def build (c : CompiledGrammar) (input : String) (maxDepth : ℕ) : Except Failure Tree :=
  (topLevel c input maxDepth).map (.node rootRule (wholeSpan input) input)

/-! ## Equations -/

theorem descend_eq {c : CompiledGrammar} {e : Explanation} {span : Span}
    {jobs : List (CompiledRule × Span)} (h : inside c e span = .ok jobs)
    (searching : List (String × Span) → CompiledRule → Span → Except Failure (List Tree))
    (path : List (String × Span)) :
    descend c searching path e span =
      (jobs.mapM fun job => searching path job.1 job.2).map List.flatten := by
  rw [descend, h]
  rfl

section

variable {c : CompiledGrammar} {input : String} {r : CompiledRule} {m : Span} {e : Explanation}
  {searching : List (String × Span) → CompiledRule → Span → Except Failure (List Tree)}
  {path : List (String × Span)}

theorem attach_unexplained (h : c.explain (slice input m) r.rule.name = none) :
    attach c input searching path r m = .ok (.node r.rule m (slice input m) []) := by
  unfold attach
  dsimp only
  rw [h]

theorem attach_own (h : c.explain (slice input m) r.rule.name = some e)
    (hown : e.rule.name = r.rule.name) :
    attach c input searching path r m =
      (descend c searching ((r.rule.name, m) :: path) e m).map
        (.node r.rule m (slice input m)) := by
  unfold attach
  dsimp only
  rw [h]
  exact if_pos hown

theorem attach_covered (h : c.explain (slice input m) r.rule.name = some e)
    (hother : e.rule.name ≠ r.rule.name) (hcovered : (e.rule.name, m) ∈ (r.rule.name, m) :: path) :
    attach c input searching path r m = .ok (.node r.rule m (slice input m) []) := by
  unfold attach
  dsimp only
  rw [h]
  exact (if_neg hother).trans (if_pos hcovered)

theorem attach_other (h : c.explain (slice input m) r.rule.name = some e)
    (hother : e.rule.name ≠ r.rule.name) (hnew : (e.rule.name, m) ∉ (r.rule.name, m) :: path) :
    attach c input searching path r m =
      (descend c searching ((e.rule.name, m) :: (r.rule.name, m) :: path) e m).map fun below =>
        .node r.rule m (slice input m) [.node e.rule m (slice input m) below] := by
  unfold attach
  dsimp only
  rw [h]
  exact (if_neg hother).trans (if_neg hnew)

end

/-! ## Nothing is missing -/

theorem captured_eq {parts : List Part} {groups : List (Option Span)}
    (hlength : groups.length = parts.length) (hsome : ∀ group ∈ groups, group.isSome) :
    captured parts groups = .ok ((parts.zip groups).filterMap fun (part, group) => do
      return (← part.ruleName?, ← group)) := by
  induction parts generalizing groups with
  | nil =>
    obtain rfl := List.length_eq_zero_iff.1 hlength
    rfl
  | cons part parts ih =>
    cases groups with
    | nil => simp at hlength
    | cons group groups =>
      obtain ⟨hgroup, hgroups⟩ := List.forall_mem_cons.1 hsome
      obtain ⟨group, rfl⟩ := Option.isSome_iff_exists.1 hgroup
      have hrest := ih (Nat.succ.inj hlength) hgroups
      cases part with
      | name n =>
        rw [captured, hrest]
        rfl
      | literal p =>
        rw [captured, hrest]
        rfl

/-- The search of the one alternative whose group took part. -/
theorem taken_eq {alternatives : List String} {front back : ℕ} {group : Span}
    (hlength : front + 1 + back = alternatives.length) :
    ∃ name, taken alternatives
        (List.replicate front none ++ some group :: List.replicate back none) = .ok (name, group) ∧
      (alternatives.zip (List.replicate front none ++
        some group :: List.replicate back none)).filterMap (fun (name, group) => do
          return (name, ← group)) = [(name, group)] := by
  induction front generalizing alternatives with
  | zero =>
    cases alternatives with
    | nil => simp at hlength
    | cons name names =>
      have hback : List.replicate back (none : Option Span) = names.map fun _ => none := by
        rw [List.length_cons] at hlength
        rw [List.map_const', show names.length = back by omega]
      refine ⟨name, ?_, ?_⟩
      · rw [List.replicate_zero, List.nil_append, taken, if_pos hback]
      · have hothers : (names.zip (List.replicate back (none : Option Span))).filterMap
            (fun (name, group) => do return (name, ← group)) = [] := by
          refine List.filterMap_eq_nil_iff.2 fun ⟨name, group⟩ htarget => ?_
          obtain rfl := List.eq_of_mem_replicate (List.of_mem_zip htarget).2
          rfl
        exact congrArg ((name, group) :: ·) hothers
  | succ front ih =>
    cases alternatives with
    | nil => simp at hlength
    | cons name names =>
      obtain ⟨name', htaken, htargets⟩ := @ih names (by rw [List.length_cons] at hlength; omega)
      refine ⟨name', ?_, ?_⟩
      · rw [List.replicate_succ, List.cons_append, taken, htaken]
      · rw [List.replicate_succ, List.cons_append, List.zip_cons_cons, List.filterMap_cons_none rfl,
          htargets]

section

variable {source text exclude : String} {g : Grammar} {c : CompiledGrammar} {e : Explanation}
  {span : Span}

/-- An explanation leads to the searches that the work goes on with. -/
theorem components_eq (hparse : Grammar.parse source = .ok g) (hcompile : g.compile = .ok c)
    (h : c.explain text exclude = some e) (hspan : span.start ≤ span.stop) :
    components e span = .ok ((Builder.targets e ⟨0, span.stop - span.start⟩).map
      fun (name, group) => (name, group.shift span.start)) := by
  have hpopulated := CompiledGrammar.populated_of_explain h
  have hlength := CompiledGrammar.length_groups_of_explain h
  unfold components Builder.targets
  cases hdescription : e.rule.description with
  | composition parts =>
    rw [hdescription] at hpopulated hlength
    have hsome := List.all_eq_true.1 (Bool.and_eq_true_iff.1 hpopulated).2
    have hparts : e.groups.length = parts.length := hlength
    dsimp only
    rw [captured_eq hparts hsome]
    rfl
  | choice alternatives =>
    obtain ⟨front, back, hcount, hgroups⟩ :=
      CompiledGrammar.exists_taken hparse hcompile h hdescription
    obtain ⟨name, htaken, htargets⟩ := @taken_eq alternatives front back (wholeSpan text) hcount
    dsimp only
    rw [hgroups, htaken, htargets]
    rfl
  | repetition rule min max =>
    have hwhole : (⟨0, span.stop - span.start⟩ : Span).shift span.start = span := by
      rw [Span.shift, Nat.add_zero, Nat.add_sub_cancel' hspan]
    dsimp only
    rw [List.map_singleton, hwhole]
  | literal pattern =>
    obtain ⟨r, -, hrule, -, hliteral, -⟩ := CompiledGrammar.exists_rule_of_explain h
    rw [hdescription, Description.isLiteral] at hliteral
    simp at hliteral

theorem lookUp_eq {name : String} {r : CompiledRule} (h : c.find? name = some r) :
    lookUp c name = .ok r := by
  rw [lookUp, h]

theorem mapM_lookUp {found : List (String × Span)}
    (hfound : ∀ target ∈ found, ∃ r, c.find? target.1 = some r) :
    ∃ jobs : List (CompiledRule × Span),
      (found.mapM fun (name, group) => return (← lookUp c name, group)) = Except.ok jobs ∧
      (found.filterMap fun (name, group) => (c.find? name).map fun r => (r.rule, group)) =
        jobs.map (fun job => (job.1.rule, job.2)) ∧ ∀ job ∈ jobs, job.1 ∈ c.rules := by
  induction found with
  | nil => exact ⟨[], rfl, rfl, by simp⟩
  | cons target found ih =>
    obtain ⟨name, group⟩ := target
    obtain ⟨⟨r, hr⟩, hrest⟩ := List.forall_mem_cons.1 hfound
    obtain ⟨jobs, hjobs, hparts, hmem⟩ := ih hrest
    refine ⟨(r, group) :: jobs, ?_, ?_, ?_⟩
    · rw [List.mapM_cons, hjobs]
      dsimp only
      rw [lookUp_eq hr]
      rfl
    · rw [List.filterMap_cons, hparts]
      dsimp only
      rw [hr]
      rfl
    · exact List.forall_mem_cons.2 ⟨CompiledGrammar.mem_of_find? hr, hmem⟩

/-- Nothing is missing: the searches that the work goes on with are those of the recursion. -/
theorem inside_eq {b : Builder} (hparse : Grammar.parse source = .ok g)
    (hcompile : g.compile = .ok b.grammar) (h : b.grammar.explain text exclude = some e)
    (hspan : span.start ≤ span.stop) :
    ∃ jobs : List (CompiledRule × Span), inside b.grammar e span = .ok jobs ∧
      b.parts e span = jobs.map (fun job => (job.1.rule, job.2)) ∧
      ∀ job ∈ jobs, job.1 ∈ b.grammar.rules := by
  obtain ⟨cr, hcr, hrule, -⟩ := CompiledGrammar.exists_rule_of_explain h
  have hfound : ∀ target ∈ (Builder.targets e ⟨0, span.stop - span.start⟩).map
      fun (name, group) => (name, group.shift span.start), ∃ r, b.grammar.find? target.1 = some r := by
    refine List.forall_mem_map.2 fun target htarget => ?_
    have href := Builder.mem_references_of_mem_targets htarget
    rw [← hrule] at href
    exact Grammar.exists_find?_of_mem_references hcompile hcr href
  obtain ⟨jobs, hjobs, hparts, hmem⟩ := mapM_lookUp hfound
  refine ⟨jobs, ?_, ?_, hmem⟩
  · rw [inside, components_eq hparse hcompile h hspan]
    exact hjobs
  · rw [← hparts, Builder.parts, List.filterMap_map]
    rfl

end

end Recursion

end PatternGrammar
