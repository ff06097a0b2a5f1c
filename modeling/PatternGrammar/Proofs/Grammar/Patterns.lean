import PatternGrammar.Proofs.Grammar.Expansion
import PatternGrammar.Proofs.Grammar.RoundTrip
import PatternGrammar.Proofs.Regex.Inlining

/-!
# Patterns of rules as texts

The pattern of a rule is a row of groups, a choice between groups or a repeated group, with the
patterns of the components in them (`Description.toList_assemble` and the lemmas after it). Where
the grammar was read from a text, all of this is on one line, so that a comment in a literal cannot
end inside of a pattern (`Grammar.newline_not_mem_pattern`).
-/

namespace PatternGrammar

open PatternGrammar.Regex (wrap plainParts nameParts)
open PatternGrammar.Regex.Reader (wrapAll wrapBarred anchor)

/-! ## Groups -/

theorem toList_grouped (b : String) : (grouped b).toList = wrap none b.toList := by
  simp [grouped, wrap]

theorem toList_groupedAs (i : ℕ) (b : String) :
    (groupedAs i b).toList = wrap (some (groupName i)) b.toList := by
  simp [groupedAs, wrap]

/-- The texts with the names of their groups. -/
def namedBodies (bodies : List String) : List (String × List Char) :=
  bodies.zipIdx.map fun b => (groupName b.2, b.1.toList)

/-- The written texts are those of the parts in their groups. -/
def WrittenAs (texts : List String) (parts : List (Option String × List Char)) : Prop :=
  List.Forall₂ (fun text part => text.toList = wrap part.1 part.2) texts parts

theorem writtenAs_plainParts (bodies : List String) :
    WrittenAs (bodies.map grouped) (plainParts bodies) := by
  induction bodies with
  | nil => exact .nil
  | cons b bodies ih => exact .cons (toList_grouped b) ih

theorem writtenAs_namedBodies (bodies : List String) :
    WrittenAs (bodies.mapIdx groupedAs) (nameParts (namedBodies bodies)) := by
  rw [List.mapIdx_eq_zipIdx_map, namedBodies]
  generalize bodies.zipIdx = numbered
  induction numbered with
  | nil => exact .nil
  | cons b numbered ih => exact .cons (toList_groupedAs b.2 b.1) ih

theorem WrittenAs.toList_join {texts : List String} {parts : List (Option String × List Char)}
    (h : WrittenAs texts parts) : (String.join texts).toList = wrapAll parts := by
  rw [String.toList_join]
  induction h with
  | nil => rfl
  | cons hpart _ ih => rw [List.flatMap_cons, wrapAll, List.flatMap_cons, hpart, ih, wrapAll]

theorem WrittenAs.toList_intercalate {texts : List String}
    {parts : List (Option String × List Char)} (h : WrittenAs texts parts) :
    ("|".intercalate texts).toList = wrapBarred parts := by
  have hbars : ∀ {texts parts}, WrittenAs texts parts →
      ((texts.map String.toList).flatMap ("|".toList ++ ·)) =
        parts.flatMap fun p => '|' :: wrap p.1 p.2 := by
    intro texts parts h
    induction h with
    | nil => rfl
    | cons hpart _ ih =>
      rw [List.map_cons, List.flatMap_cons, List.flatMap_cons, ih, hpart]
      rfl
  rw [String.toList_intercalate]
  cases h with
  | nil => simp [wrapBarred, List.intercalate_nil]
  | cons hpart hrest => rw [List.map_cons, Text.intercalate_cons, hbars hrest, wrapBarred, hpart]

theorem toList_anchored (pattern : String) :
    (Grammar.anchored pattern).toList = anchor pattern.toList := by
  simp [Grammar.anchored, anchor]

/-! ## Descriptions -/

namespace Description

/-- The bounds leave nothing to repeat: both are zero, or the upper one is below the lower one. -/
def Degenerate (min : UInt32) (max : Option UInt32) : Prop :=
  ∃ m, max = some m ∧ (min = 0 ∧ m = 0 ∨ m < min)

theorem ofBounds?_eq_none_iff {min : UInt32} {max : Option UInt32} :
    Quantifier.ofBounds? min max = none ↔ Degenerate min max := by
  cases max with
  | none =>
    have hsome : Quantifier.ofBounds? min none ≠ none := by
      show (if min = 0 then _ else if min = 1 then _ else _) ≠ none
      split
      · simp
      · split <;> simp
    simp [hsome, Degenerate]
  | some m =>
    show (if m = 0 ∨ m < min then none else if min = 0 ∧ m = 1 then _ else
      if min = m then _ else _) = none ↔ _
    split
    · rename_i hnone
      refine iff_of_true rfl ⟨m, rfl, ?_⟩
      rcases hnone with rfl | hlt
      · rcases UInt32.lt_or_eq_of_le (show (0 : UInt32) ≤ min from UInt32.zero_le) with hlt | heq
        · exact .inr hlt
        · exact .inl ⟨heq.symm, rfl⟩
      · exact .inr hlt
    · rename_i hnone
      refine iff_of_false ?_ ?_
      · split
        · simp
        · split <;> simp
      · rintro ⟨_, ⟨⟩, ⟨-, hzero⟩ | hlt⟩
        · exact hnone (.inl hzero)
        · exact hnone (.inr hlt)

theorem ordered_of_ofBounds? {min : UInt32} {max : Option UInt32} {q : Quantifier}
    (h : Quantifier.ofBounds? min max = some q) : Regex.Reader.Ordered q := by
  intro m hm
  rw [bounds_of_ofBounds? h] at hm ⊢
  obtain rfl : max = some m := hm
  have hnot : ¬Degenerate min (some m) := by
    rw [← ofBounds?_eq_none_iff, h]
    simp
  exact UInt32.not_lt.1 fun hlt => hnot ⟨m, rfl, .inr hlt⟩

variable {bodies : List String}

theorem toList_assemble_composition (parts : List Part) :
    ((composition parts).assemble bodies).toList = wrapAll (plainParts bodies) :=
  (writtenAs_plainParts bodies).toList_join

theorem toList_assemble_choice (alternatives : List String) :
    ((choice alternatives).assemble bodies).toList = wrapBarred (plainParts bodies) :=
  (writtenAs_plainParts bodies).toList_intercalate

theorem toList_assemble_repetition {min : UInt32} {max : Option UInt32} {q : Quantifier}
    (h : Quantifier.ofBounds? min max = some q) (rule body : String) :
    ((repetition rule min max).assemble [body]).toList =
      wrap none body.toList ++ q.text.toList := by
  rw [assemble, h]
  simp [toList_grouped]

theorem assemble_degenerate {min : UInt32} {max : Option UInt32} (h : Degenerate min max)
    (rule : String) : (repetition rule min max).assemble bodies = "" := by
  rw [assemble, ofBounds?_eq_none_iff.2 h]

theorem assemble_literal (pattern body : String) : (literal pattern).assemble [body] = body := by
  simp [assemble]

theorem toList_assembleGroups_composition (parts : List Part) :
    ((composition parts).assembleGroups bodies).toList = wrapAll (nameParts (namedBodies bodies)) :=
  (writtenAs_namedBodies bodies).toList_join

theorem toList_assembleGroups_choice (alternatives : List String) :
    ((choice alternatives).assembleGroups bodies).toList = wrapBarred (nameParts (namedBodies bodies)) :=
  (writtenAs_namedBodies bodies).toList_intercalate

theorem toList_assembleGroups_repetition {min : UInt32} {max : Option UInt32} {q : Quantifier}
    (h : Quantifier.ofBounds? min max = some q) (rule body : String) :
    ((repetition rule min max).assembleGroups [body]).toList =
      wrap (some (groupName 0)) body.toList ++ q.text.toList := by
  rw [assembleGroups, h]
  simp [toList_groupedAs]

/-! ## Lines -/

theorem newline_not_mem_wrap {b : List Char} (h : '\n' ∉ b) : '\n' ∉ wrap none b := by
  simp [wrap, h]

/-- A pattern that is put together from patterns on one line is on one line. -/
theorem newline_not_mem_assemble {d : Description} (h : ∀ b ∈ bodies, '\n' ∉ b.toList) :
    '\n' ∉ (d.assemble bodies).toList := by
  have hgroups : ∀ t ∈ bodies.map grouped, '\n' ∉ t.toList := by
    intro t ht
    obtain ⟨b, hb, rfl⟩ := List.mem_map.1 ht
    rw [toList_grouped]
    exact newline_not_mem_wrap (h b hb)
  have hjoin : ∀ {texts : List String}, (∀ t ∈ texts, '\n' ∉ t.toList) →
      '\n' ∉ (String.join texts).toList := by
    intro texts htexts hmem
    rw [String.toList_join, List.mem_flatMap] at hmem
    obtain ⟨t, ht, hmem⟩ := hmem
    exact htexts t ht hmem
  cases d with
  | repetition rule min max =>
    rw [assemble]
    split
    · rw [String.toList_append, List.mem_append, not_or]
      exact ⟨hjoin hgroups, Regex.Reader.newline_not_mem_quantifier _⟩
    · simp
  | choice alternatives =>
    intro hmem
    rw [assemble, String.toList_intercalate] at hmem
    rcases Text.mem_intercalate hmem with hmem | ⟨cs, hcs, hmem⟩
    · simp at hmem
    · obtain ⟨t, ht, rfl⟩ := List.mem_map.1 hcs
      exact hgroups t ht hmem
  | literal pattern => exact hjoin h
  | composition parts => exact hjoin hgroups

end Description

namespace Grammar

variable {g : Grammar} {c : CompiledGrammar}

theorem line_of_readable {d : Description} (h : d.Readable) {p : String}
    (hp : Part.literal p ∈ d.components) : '\n' ∉ p.toList := by
  cases d with
  | repetition rule min max => simp [Description.components] at hp
  | choice alternatives => simp [Description.components] at hp
  | literal pattern =>
    obtain rfl : p = pattern := by simpa [Description.components] using hp
    exact h.line
  | composition parts => exact (h.2 _ hp).line

/-- In a grammar that was read from a text the pattern of each rule is on one line. -/
theorem newline_not_mem_pattern (hg : ∀ r ∈ g.rules, r.Readable) (h : g.compile = .ok c) :
    ∀ cr ∈ c.rules, '\n' ∉ cr.pattern.toList := by
  obtain ⟨order, hc⟩ := exists_order_of_compile h
  refine hc.induction fun cr hcr ih => ?_
  obtain ⟨bodies, hbodies, hpattern, -⟩ := exists_bodies_of_compile h hcr
  rw [hpattern]
  refine Description.newline_not_mem_assemble (hbodies.forall_mem (fun p hp => ?_) ?_)
  · exact line_of_readable (hg _ (hc.rule_mem hcr)).description hp
  · intro name hname p hp
    obtain ⟨cr', hcr', rfl⟩ := Option.map_eq_some_iff.1 hp
    exact ih name (mem_references_of_mem_components hname) cr' hcr'

/-- The patterns of the components of a rule are on one line as well. -/
theorem newline_not_mem_bodies (hg : ∀ r ∈ g.rules, r.Readable) (h : g.compile = .ok c)
    {cr : CompiledRule} (hcr : cr ∈ c.rules) {bodies : List String}
    (hbodies : Bodies c.pattern? cr.rule.description.components bodies) :
    ∀ b ∈ bodies, '\n' ∉ b.toList := by
  obtain ⟨order, hc⟩ := exists_order_of_compile h
  refine hbodies.forall_mem (fun p hp => ?_) fun name hname p hp => ?_
  · exact line_of_readable (hg _ (hc.rule_mem hcr)).description hp
  · obtain ⟨cr', hcr', rfl⟩ := Option.map_eq_some_iff.1 hp
    exact newline_not_mem_pattern hg h cr' (CompiledGrammar.mem_of_find? hcr')

end Grammar

/-! ## Regular expressions of components -/

/-- A literal part can be compiled on its own. -/
def Part.Valid : Part → Prop
  | name _ => True
  | literal p => ∃ re, Regex.compile p = .ok re

instance (part : Part) : Decidable part.Valid :=
  match part with
  | .name _ => .isTrue trivial
  | .literal p =>
    match hp : Regex.compile p with
    | .ok re => .isTrue ⟨re, hp⟩
    | .error _ => .isFalse fun ⟨_, hre⟩ => by simp [hp] at hre

/-- All literals of the rules can be compiled on their own. -/
def Grammar.LiteralsValid (g : Grammar) : Prop :=
  ∀ r ∈ g.rules, ∀ part ∈ r.description.components, part.Valid

instance (g : Grammar) : Decidable g.LiteralsValid :=
  inferInstanceAs (Decidable (∀ r ∈ g.rules, ∀ part ∈ r.description.components, part.Valid))

/-- The component has this regular expression: what is compiled from the text of a literal, and the
one of the compiled rule for a name. -/
def CompiledGrammar.Component (c : CompiledGrammar) : Part → Regex → Prop
  | .name name, re => ∃ cr, c.find? name = some cr ∧ re = cr.matcher
  | .literal p, re => Regex.compile p = .ok re

/-- Where literals can be compiled on their own, all components have regular expressions, which are
compiled from their patterns. -/
theorem Bodies.exists_regexes {c : CompiledGrammar} {parts : List Part} {bodies : List String}
    (h : Bodies c.pattern? parts bodies) (hc : ∀ cr ∈ c.rules, Grammar.CompiledFrom cr)
    (hvalid : ∀ part ∈ parts, part.Valid) :
    ∃ res, List.Forall₂ c.Component parts res ∧
      List.Forall₂ (fun b re => Regex.compile b = .ok re) bodies res := by
  induction h with
  | nil => exact ⟨[], .nil, .nil⟩
  | @cons part body parts bodies hpart _ ih =>
    obtain ⟨hfirst, hrest⟩ := List.forall_mem_cons.1 hvalid
    obtain ⟨res, hparts, hbodies⟩ := ih hrest
    cases part with
    | name n =>
      obtain ⟨cr, hcr, rfl⟩ := Option.map_eq_some_iff.1 hpart
      have hcompiled := (hc cr (CompiledGrammar.mem_of_find? hcr)).1
      exact ⟨cr.matcher :: res, .cons ⟨cr, hcr, rfl⟩ hparts, .cons hcompiled hbodies⟩
    | literal p =>
      obtain rfl := Option.some.inj hpart
      obtain ⟨re, hre⟩ := hfirst
      exact ⟨re :: res, .cons hre hparts, .cons hre hbodies⟩

end PatternGrammar
