import PatternGrammar.Proofs.Grammar.Patterns
import PatternGrammar.Proofs.Regex.Completeness

/-!
# Patterns mean what rules say

A rule derives a range of a text by what it says: a literal where its pattern matches, a choice
where one of its alternatives derives, a composition where its parts derive one after another, a
repetition where so many copies of its rule do. The pattern of a compiled rule, which has all the
rules that it reaches inlined, can match exactly the ranges that the rule derives.

Main definition: `Grammar.Derives`. Main result: `Grammar.canMatch_iff_derives`.
-/

namespace PatternGrammar.Grammar

open PatternGrammar.Description (Degenerate)
open PatternGrammar.Regex (SpansRow InBounds Times)

/-! ## Derivations -/

mutual

/-- The rule derives the text from the first place to the second. -/
inductive Derives (g : Grammar) (text : String) : Rule → ℕ → ℕ → Prop
  | literal {name pattern : String} {i j : ℕ} (part : DerivesPart g text (.literal pattern) i j) :
    Derives g text ⟨name, .literal pattern⟩ i j
  | choice {name alternative : String} {alternatives : List String} {i j : ℕ}
    (mem : alternative ∈ alternatives) (part : DerivesPart g text (.name alternative) i j) :
    Derives g text ⟨name, .choice alternatives⟩ i j
  | composition {name : String} {parts : List Part} {i j : ℕ} (row : DerivesRow g text parts i j) :
    Derives g text ⟨name, .composition parts⟩ i j
  | repetition {name rule : String} {min : UInt32} {max : Option UInt32} {k i j : ℕ}
    (bounds : ¬Degenerate min max) (low : min.toNat ≤ k) (high : ∀ m ∈ max, k ≤ m.toNat)
    (row : DerivesRow g text (List.replicate k (.name rule)) i j) :
    Derives g text ⟨name, .repetition rule min max⟩ i j
  | degenerate {name rule : String} {min : UInt32} {max : Option UInt32} {i : ℕ}
    (bounds : Degenerate min max) : Derives g text ⟨name, .repetition rule min max⟩ i i

/-- The component derives the text from the first place to the second. -/
inductive DerivesPart (g : Grammar) (text : String) : Part → ℕ → ℕ → Prop
  | name {name : String} {r : Rule} {i j : ℕ} (rule : g.get? name = some r)
    (derives : Derives g text r i j) : DerivesPart g text (.name name) i j
  | literal {pattern : String} {re : Regex} {i j : ℕ} (compiled : Regex.compile pattern = .ok re)
    (canMatch : re.CanMatch text i j) : DerivesPart g text (.literal pattern) i j

/-- The components derive the text from the first place to the second, one after another. -/
inductive DerivesRow (g : Grammar) (text : String) : List Part → ℕ → ℕ → Prop
  | nil {i : ℕ} : DerivesRow g text [] i i
  | cons {part : Part} {parts : List Part} {i m j : ℕ} (first : DerivesPart g text part i m)
    (rest : DerivesRow g text parts m j) : DerivesRow g text (part :: parts) i j

end

variable {g : Grammar} {c : CompiledGrammar} {text : String} {name : String} {i j : ℕ}

theorem derives_literal_iff {pattern : String} :
    g.Derives text ⟨name, .literal pattern⟩ i j ↔ g.DerivesPart text (.literal pattern) i j :=
  ⟨fun | .literal part => part, .literal⟩

theorem derives_choice_iff {alternatives : List String} :
    g.Derives text ⟨name, .choice alternatives⟩ i j ↔
      ∃ part ∈ alternatives.map Part.name, g.DerivesPart text part i j := by
  constructor
  · rintro ⟨⟩
    rename_i mem part
    exact ⟨_, List.mem_map_of_mem mem, part⟩
  · rintro ⟨part, hpart, h⟩
    obtain ⟨alternative, hmem, rfl⟩ := List.mem_map.1 hpart
    exact .choice hmem h

theorem derives_composition_iff {parts : List Part} :
    g.Derives text ⟨name, .composition parts⟩ i j ↔ g.DerivesRow text parts i j :=
  ⟨fun | .composition row => row, .composition⟩

theorem derivesRow_cons_iff {part : Part} {parts : List Part} :
    g.DerivesRow text (part :: parts) i j ↔
      ∃ m, g.DerivesPart text part i m ∧ g.DerivesRow text parts m j :=
  ⟨fun | .cons first rest => ⟨_, first, rest⟩, fun ⟨_, first, rest⟩ => .cons first rest⟩

theorem derivesRow_nil_iff : g.DerivesRow text [] i j ↔ i = j :=
  ⟨fun | .nil => rfl, fun h => h ▸ .nil⟩

theorem derivesRow_replicate_iff {part : Part} {k : ℕ} :
    g.DerivesRow text (List.replicate k part) i j ↔ Times (g.DerivesPart text part) k i j := by
  induction k generalizing i with
  | zero => exact derivesRow_nil_iff
  | succ k ih => simp only [List.replicate_succ, derivesRow_cons_iff, ih, Times]

theorem derives_repetition_iff {rule : String} {min : UInt32} {max : Option UInt32}
    (h : ¬Degenerate min max) :
    g.Derives text ⟨name, .repetition rule min max⟩ i j ↔ ∃ k, min.toNat ≤ k ∧
      (∀ m ∈ max, k ≤ m.toNat) ∧ Times (g.DerivesPart text (.name rule)) k i j := by
  constructor
  · rintro ⟨⟩
    · rename_i k low high bounds row
      exact ⟨k, low, high, derivesRow_replicate_iff.1 row⟩
    · exact absurd ‹_› h
  · rintro ⟨k, low, high, row⟩
    exact .repetition h low high (derivesRow_replicate_iff.2 row)

theorem derives_degenerate_iff {rule : String} {min : UInt32} {max : Option UInt32}
    (h : Degenerate min max) :
    g.Derives text ⟨name, .repetition rule min max⟩ i j ↔ i = j := by
  constructor
  · rintro ⟨⟩
    · exact absurd h ‹_›
    · rfl
  · rintro rfl
    exact .degenerate h

/-! ## Components -/

/-- The regular expression matches what the component derives. -/
def Captures (g : Grammar) (text : String) (part : Part) (re : Regex) : Prop :=
  ∀ i j, re.pattern.Spans text.toList.toArray i j ↔ g.DerivesPart text part i j

theorem captures_literal {pattern : String} {re : Regex} (h : Regex.compile pattern = .ok re) :
    g.Captures text (.literal pattern) re := by
  intro i j
  rw [← Regex.canMatch_iff (Regex.program_of_compile h)]
  constructor
  · exact .literal h
  · rintro ⟨⟩
    rename_i re' hre' hmatch
    obtain rfl := Except.ok.inj (h.symm.trans hre')
    exact hmatch

theorem captures_name {r : Rule} {re : Regex} (hr : g.get? name = some r)
    (hre : re.program = re.pattern.program)
    (h : ∀ i j, re.CanMatch text i j ↔ g.Derives text r i j) :
    g.Captures text (.name name) re := by
  intro i j
  rw [← Regex.canMatch_iff hre, h]
  constructor
  · exact .name hr
  · rintro ⟨⟩
    rename_i r' hr' hderives
    obtain rfl := Option.some.inj (hr.symm.trans hr')
    exact hderives

theorem spansRow_iff_derivesRow {parts : List Part} {res : List Regex}
    (h : List.Forall₂ (g.Captures text) parts res) :
    SpansRow text.toList.toArray (res.map Regex.pattern) i j ↔ g.DerivesRow text parts i j := by
  induction h generalizing i with
  | nil => exact derivesRow_nil_iff.symm
  | cons hpart _ ih =>
    rw [derivesRow_cons_iff, List.map_cons]
    simp only [SpansRow, hpart _ _, ih]

theorem exists_spans_iff_derives {parts : List Part} {res : List Regex}
    (h : List.Forall₂ (g.Captures text) parts res) :
    (∃ re ∈ res, re.pattern.Spans text.toList.toArray i j) ↔
      ∃ part ∈ parts, g.DerivesPart text part i j := by
  induction h with
  | nil => simp
  | cons hpart _ ih => simp only [List.exists_mem_cons_iff, hpart _ _, ih]

theorem captures_components {parts : List Part} {res : List Regex}
    (h : List.Forall₂ c.Component parts res)
    (hname : ∀ name, .name name ∈ parts → ∀ cr, c.find? name = some cr →
      g.Captures text (.name name) cr.matcher) : List.Forall₂ (g.Captures text) parts res := by
  induction h with
  | nil => exact .nil
  | @cons part re parts res hpart _ ih =>
    refine .cons ?_ (ih fun name hn => hname name (List.mem_cons_of_mem _ hn))
    cases part with
    | name n =>
      obtain ⟨cr, hcr, rfl⟩ := hpart
      exact hname n List.mem_cons_self cr hcr
    | literal p => exact captures_literal hpart

/-! ## Rules -/

theorem spans_empty {re : Regex} (h : Regex.compile "" = .ok re) {text : Array Char} :
    re.pattern.Spans text i j ↔ i = j := by
  obtain ⟨e, ps, f, hread, hps, hpattern, -⟩ := Regex.exists_branches_of_compile h
  obtain rfl : Regex.Expr.empty = e := Except.ok.inj hread
  obtain ⟨rfl, -⟩ := Prod.mk.inj (Except.ok.inj hps)
  rw [hpattern, Regex.Pattern.sameSpans_singleton _ text]
  exact Iff.rfl

/-- Bounds that are in order are bounds as they stand. -/
theorem inBounds_iff {min : UInt32} {max : Option UInt32} (h : ¬Degenerate min max) {k : ℕ} :
    InBounds min.toNat (max.map UInt32.toNat) k ↔ min.toNat ≤ k ∧ ∀ m ∈ max, k ≤ m.toNat := by
  cases max with
  | none => simp [InBounds]
  | some m =>
    have hle : min.toNat ≤ m.toNat := by
      rw [← UInt32.le_iff_toNat_le]
      exact UInt32.not_lt.1 fun hlt => h ⟨m, rfl, .inr hlt⟩
    simp only [InBounds, Option.map_some, Option.mem_some_iff, forall_eq', Nat.max_eq_right hle]

/-- A repetition matches rows of what its inner rule derives, and nothing but the empty text if its
bounds are degenerate. -/
theorem captures_repetition {name rule body : String} {min : UInt32} {max : Option UInt32}
    {re inner : Regex}
    (hre : Regex.compile ((Description.repetition rule min max).assemble [body]) = .ok re)
    (hline : '\n' ∉ body.toList) (hbody : Regex.compile body = .ok inner)
    (hpart : g.Captures text (.name rule) inner) :
    re.pattern.Spans text.toList.toArray i j ↔
      g.Derives text ⟨name, .repetition rule min max⟩ i j := by
  by_cases hdegenerate : Degenerate min max
  · rw [Description.assemble_degenerate hdegenerate] at hre
    rw [spans_empty hre, derives_degenerate_iff hdegenerate]
  · cases hq : Quantifier.ofBounds? min max with
    | none => exact absurd (Description.ofBounds?_eq_none_iff.1 hq) hdegenerate
    | some q =>
      have hbounds := Description.bounds_of_ofBounds? hq
      rw [Regex.spans_repeated hre (Description.toList_assemble_repetition hq rule _)
        (Description.ordered_of_ofBounds? hq) hbody hline, derives_repetition_iff hdegenerate,
        hbounds]
      have hspans := funext fun i => funext fun j => propext (hpart i j)
      simp only [inBounds_iff hdegenerate, hspans, and_assoc]

/-- The pattern of a rule matches what the rule derives, if the regular expressions of its components
match what these derive. -/
theorem captures_rule {r : Rule} {s : String} {re : Regex} {bodies : List String}
    {res : List Regex} (hr : r.description.Readable) (hre : Regex.compile s = .ok re)
    (hs : s = r.description.assemble bodies) (hline : ∀ b ∈ bodies, '\n' ∉ b.toList)
    (hbodies : List.Forall₂ (fun b re => Regex.compile b = .ok re) bodies res)
    (hparts : List.Forall₂ (g.Captures text) r.description.components res) :
    re.pattern.Spans text.toList.toArray i j ↔ g.Derives text r i j := by
  obtain ⟨name, d⟩ := r
  subst hs
  cases d with
  | repetition rule min max =>
    -- a repetition has one component
    cases hparts with
    | cons hpart hrest =>
      cases hrest
      cases hbodies with
      | cons hbody hrest =>
        cases hrest
        exact captures_repetition hre (hline _ List.mem_cons_self) hbody hpart
  | choice alternatives =>
    have hne : bodies ≠ [] := by
      rintro rfl
      cases hbodies
      cases alternatives with
      | nil => simp [Description.Readable] at hr
      | cons a alternatives => cases hparts
    rw [derives_choice_iff, Regex.spans_barred hre (Description.toList_assemble_choice _) hne
      hbodies hline]
    exact exists_spans_iff_derives hparts
  | literal pattern =>
    cases hparts with
    | cons hpart hrest =>
      cases hrest
      cases hbodies with
      | cons hbody hrest =>
        cases hrest
        rw [Description.assemble_literal, hbody] at hre
        obtain rfl := Except.ok.inj hre
        rw [derives_literal_iff]
        exact hpart i j
  | composition parts =>
    rw [derives_composition_iff, Regex.spans_row hre (Description.toList_assemble_composition _)
      hbodies hline]
    exact spansRow_iff_derivesRow hparts

/-- The pattern of each rule, with all rules that it reaches inlined, can match exactly what the rule
derives, where the literals of the grammar are patterns on their own. -/
theorem canMatch_iff_derives {source : String} (hparse : parse source = .ok g)
    (hcompile : g.compile = .ok c) (hliterals : g.LiteralsValid) :
    ∀ r ∈ g.rules, ∃ cr, c.find? r.name = some cr ∧ cr.rule = r ∧
      ∀ text i j, cr.matcher.CanMatch text i j ↔ g.Derives text r i j := by
  have hreadable := readable_of_parse hparse
  obtain ⟨order, hc⟩ := exists_order_of_compile hcompile
  have hrules : ∀ cr ∈ c.rules, ∀ text i j,
      cr.matcher.CanMatch text i j ↔ g.Derives text cr.rule i j := by
    refine hc.induction fun cr hcr ih text i j => ?_
    obtain ⟨bodies, hbodies, hpattern, -⟩ := exists_bodies_of_compile hcompile hcr
    obtain ⟨res, hparts, hres⟩ := hbodies.exists_regexes hc.compiled (hliterals _ (hc.rule_mem hcr))
    have hmatcher := (hc.compiled cr hcr).1
    rw [Regex.canMatch_iff (Regex.program_of_compile hmatcher)]
    refine captures_rule (hreadable _ (hc.rule_mem hcr)).description hmatcher hpattern
      (newline_not_mem_bodies hreadable hcompile hcr hbodies) hres ?_
    refine captures_components hparts fun name hname cr' hcr' => ?_
    have hmem := CompiledGrammar.mem_of_find? hcr'
    obtain rfl := CompiledGrammar.name_of_find? hcr'
    exact captures_name (get?_of_mem hc.nodup (hc.rule_mem hmem))
      (Regex.program_of_compile (hc.compiled cr' hmem).1)
      (ih _ (mem_references_of_mem_components hname) cr' hcr' text)
  intro r hr
  rw [← hc.rules_eq] at hr
  obtain ⟨cr, hcr, rfl⟩ := List.mem_map.1 hr
  exact ⟨cr, hc.find?_of_mem hcr, rfl, hrules cr hcr⟩

/-- Words and numbers in a row, with commas between them. -/
def rows : Grammar :=
  ⟨[⟨"row", .composition [.name "item", .name "rest"]⟩, ⟨"rest", .repetition "more" 0 none⟩,
    ⟨"more", .composition [.literal ", |; ", .name "item"]⟩, ⟨"item", .choice ["word", "number"]⟩,
    ⟨"word", .literal "[a-z]+"⟩, ⟨"number", .literal "[0-9]+"⟩]⟩

theorem canMatch_iff_derives_rows : ∃ c, parse rows.text = .ok rows ∧ rows.compile = .ok c ∧
    rows.LiteralsValid ∧ ∀ r ∈ rows.rules, ∃ cr, c.find? r.name = some cr ∧ cr.rule = r ∧
      ∀ text i j, cr.matcher.CanMatch text i j ↔ rows.Derives text r i j := by
  have hparse : parse rows.text = .ok rows := by decide +kernel
  have hok : rows.compile.toOption.any fun _ => true := by decide +kernel
  have hliterals : rows.LiteralsValid := by decide +kernel
  obtain ⟨c, hc, -⟩ := exists_ok_of_any hok
  exact ⟨c, hparse, hc, hliterals, canMatch_iff_derives hparse hc hliterals⟩

end PatternGrammar.Grammar
