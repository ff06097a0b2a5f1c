import PatternGrammar.Proofs.Grammar.Derivation
import PatternGrammar.Proofs.Grammar.Explanation
import PatternGrammar.Proofs.Regex.Preference

/-!
# Groups of explanations

The groups of a composition that explains a text divide the text among its parts, where each literal
part is a regular expression on its own. A literal that closes a group in front of it and opens
another one is none, and with it the groups need not fill the text. The alternatives of a choice are
names, so that one of its groups always takes the whole text and the others take no part. The one
group of a repetition only keeps the last round, but the text is divided into matches of the inner
rule.

Main results:

* `CompiledGrammar.groups_divide`: the groups of a composition.
* `CompiledGrammar.exists_taken`: the groups of a choice.
* `CompiledGrammar.exists_times_of_explain`: the rounds of a repetition.
-/

namespace PatternGrammar

open PatternGrammar.Text (Span byteSize slice slice? wholeSpan)
open PatternGrammar.Regex (Tiles Wrappable byteSpan offsets)

/-! ## Names of groups -/

theorem line_groupName (i : ℕ) : '>' ∉ (groupName i).toList ∧ '\n' ∉ (groupName i).toList := by
  have hnot : ∀ {c : Char}, c.isDigit = false → c ∉ Nat.toDigits 10 i := fun hc hmem => by
    simp [Nat.isDigit_of_mem_toDigits (by decide) (by decide) hmem] at hc
  simp [groupName, hnot]

theorem map_fst_namedBodies (bodies : List String) :
    (namedBodies bodies).map Prod.fst = (List.range bodies.length).map groupName := by
  rw [namedBodies, List.map_map, List.range_eq_range', ← List.zipIdx_map_snd, List.map_map]
  rfl

variable {bodies : List String} {res : List Regex}

theorem wrappable_namedBodies
    (hbodies : List.Forall₂ (fun b re => Regex.compile b = .ok re) bodies res)
    (hline : ∀ b ∈ bodies, '\n' ∉ b.toList) :
    ∀ x ∈ namedBodies bodies, Wrappable (some x.1) x.2 := by
  refine List.forall_mem_map.2 fun b hb => ?_
  have hmem : b.1 ∈ bodies := List.fst_mem_of_mem_zipIdx hb
  obtain ⟨re, hre⟩ := Regex.exists_compile_of_mem hbodies b.1 hmem
  refine Regex.wrappable_of_compile (fun n hn => ?_) (hline b.1 hmem) hre
  obtain rfl : groupName b.2 = n := Option.some.inj hn
  exact line_groupName b.2

theorem forall₂_zipIdx {α β : Type} {R : α → β → Prop} {as : List α} {bs : List β}
    (h : List.Forall₂ R as bs) (k : ℕ) :
    List.Forall₂ (fun a b => R a.1 b) (as.zipIdx k) bs := by
  induction h generalizing k with
  | nil => exact .nil
  | cons hab _ ih => exact .cons hab (ih (k + 1))

theorem ownRegex_namedBodies
    (hbodies : List.Forall₂ (fun b re => Regex.compile b = .ok re) bodies res) :
    List.Forall₂ Regex.OwnRegex (Regex.nameParts (namedBodies bodies)) res := by
  rw [Regex.nameParts, namedBodies, List.map_map, List.forall₂_map_left_iff]
  refine (forall₂_zipIdx hbodies 0).imp fun b re hre => ?_
  show Regex.compile (String.ofList b.1.toList) = .ok re
  rwa [String.ofList_toList]

/-! ## Ranges in bytes -/

/-- The spans lie next to each other and go from the first offset to the second. -/
def Adjoin : ℕ → List Span → ℕ → Prop
  | i, [], j => i = j
  | i, s :: spans, j => s.start = i ∧ Adjoin s.stop spans j

theorem adjoin_of_tiles {text : String} {ranges : List (ℕ × ℕ)} {i j : ℕ}
    (h : Tiles i ranges j) (hj : j ≤ text.toList.length) :
    i ≤ j ∧ Adjoin (byteSize (text.toList.take i)) (ranges.map (byteSpan (offsets text.toList)))
      (byteSize (text.toList.take j)) ∧
    ranges.flatMap (fun m => (slice text (byteSpan (offsets text.toList) m)).toList) =
      (text.toList.drop i).take (j - i) := by
  induction ranges generalizing i with
  | nil =>
    obtain rfl : i = j := h
    simp [Adjoin]
  | cons m ranges ih =>
    obtain ⟨rfl, hle, hrest⟩ := h
    obtain ⟨hij, hadjoin, hslices⟩ := ih hrest
    have hspan : byteSpan (offsets text.toList) m =
        ⟨byteSize (text.toList.take m.1), byteSize (text.toList.take m.2)⟩ := by
      rw [byteSpan, Regex.getD_offsets (by omega), Regex.getD_offsets (by omega)]
    refine ⟨Nat.le_trans hle hij, ?_, ?_⟩
    · rw [List.map_cons, hspan]
      exact ⟨rfl, hadjoin⟩
    · rw [List.flatMap_cons, hslices, hspan,
        Text.slice_eq_of_slice? (Text.slice?_between text hle), String.toList_ofList]
      have hdrop : text.toList.drop m.2 = (text.toList.drop m.1).drop (m.2 - m.1) := by
        rw [List.drop_drop, Nat.add_sub_cancel' hle]
      rw [hdrop, ← List.take_add, show m.2 - m.1 + (j - m.2) = j - m.1 by omega]

/-! ## Compiled rules -/

theorem Description.groupNames_eq {d : Description} (hd : d.isDegenerate = false)
    (hlength : bodies.length = d.components.length) :
    d.groupNames = (namedBodies bodies).map Prod.fst := by
  rw [map_fst_namedBodies, hlength, groupNames, groupCount, hd]
  rfl

/-- The regular expressions of a compiled rule are put together from those of its components. -/
structure CompiledRule.Assembled (c : CompiledGrammar) (cr : CompiledRule) (bodies : List String)
    (res : List Regex) : Prop where
  components : List.Forall₂ c.Component cr.rule.description.components res
  compiled : List.Forall₂ (fun b re => Regex.compile b = .ok re) bodies res
  line : ∀ b ∈ bodies, '\n' ∉ b.toList
  matcher : Regex.compile (cr.rule.description.assemble bodies) = .ok cr.matcher
  groups : Regex.compile (Grammar.anchored (cr.rule.description.assembleGroups bodies)) =
    .ok cr.groups

namespace CompiledRule.Assembled

variable {c : CompiledGrammar} {cr : CompiledRule} {text : String} {groups : List (Option Span)}

theorem length_eq (h : cr.Assembled c bodies res) :
    bodies.length = cr.rule.description.components.length := by
  rw [h.compiled.length_eq, h.components.length_eq]

/-- A repetition has the regular expression of the rule that it repeats. -/
theorem exists_inner (h : cr.Assembled c bodies res) {rule : String} {min : UInt32}
    {max : Option UInt32} (hrepetition : cr.rule.description = .repetition rule min max) :
    ∃ b r, bodies = [b] ∧ res = [r.matcher] ∧ c.find? rule = some r ∧
      Regex.compile b = .ok r.matcher ∧ Wrappable (some (groupName 0)) b.toList := by
  have hcomponents := h.components
  rw [hrepetition, Description.components] at hcomponents
  obtain ⟨re, _, ⟨r, hr, rfl⟩, hnil, rfl⟩ := List.forall₂_cons_left_iff.1 hcomponents
  obtain rfl := List.forall₂_nil_left_iff.1 hnil
  obtain ⟨b, _, hb, hnil, rfl⟩ := List.forall₂_cons_right_iff.1 h.compiled
  obtain rfl := List.forall₂_nil_right_iff.1 hnil
  refine ⟨b, r, rfl, rfl, hr, hb, Regex.wrappable_of_compile (fun n hn => ?_)
    (h.line b List.mem_cons_self) hb⟩
  obtain rfl : groupName 0 = n := Option.some.inj hn
  exact line_groupName 0

/-- The places of the groups of a composition that matches a text tile the text, one for each
part. -/
theorem tiles (h : cr.Assembled c bodies res) {parts : List Part}
    (hparts : cr.rule.description = .composition parts)
    (hnamed : cr.groups.named cr.rule.description.groupNames text = some groups) :
    ∃ ranges, Tiles 0 ranges text.toList.length ∧ ranges.length = parts.length ∧
      groups = (ranges.map (byteSpan (offsets text.toList))).map some := by
  have hsource : (Grammar.anchored (cr.rule.description.assembleGroups bodies)).toList =
      Regex.Reader.anchor (Regex.Reader.wrapAll (Regex.nameParts (namedBodies bodies))) := by
    rw [toList_anchored, hparts, Description.toList_assembleGroups_composition]
  rw [Description.groupNames_eq (by rw [hparts]; rfl) h.length_eq] at hnamed
  obtain ⟨ranges, htiles, hranges, hgroups⟩ :=
    Regex.named_row h.groups hsource (wrappable_namedBodies h.compiled h.line) hnamed
  refine ⟨ranges, htiles, ?_, ?_⟩
  · rw [hranges, namedBodies, List.length_map, List.length_zipIdx, h.length_eq, hparts,
      Description.components]
  · rw [hgroups, List.map_map]
    rfl

/-- Where a choice matches a text, the group of its first alternative that matches the whole text
takes the text, and the others take no part. -/
theorem first_taken (h : cr.Assembled c bodies res) {alternatives : List String}
    (halternatives : cr.rule.description = .choice alternatives) (hne : alternatives ≠ [])
    (hnamed : cr.groups.named cr.rule.description.groupNames text = some groups) :
    ∃ front r back, res = front ++ r :: back ∧ r.MatchesWhole text ∧
      (∀ r' ∈ front, ¬r'.MatchesWhole text) ∧
      groups = List.replicate front.length none ++
        some (wholeSpan text) :: List.replicate back.length none := by
  have hsource : (Grammar.anchored (cr.rule.description.assembleGroups bodies)).toList =
      Regex.Reader.anchor (Regex.Reader.wrapBarred (Regex.nameParts (namedBodies bodies))) := by
    rw [toList_anchored, halternatives, Description.toList_assembleGroups_choice]
  have hbodies : namedBodies bodies ≠ [] := by
    rwa [← List.length_pos_iff_ne_nil, namedBodies, List.length_map, List.length_zipIdx,
      h.length_eq, halternatives, Description.components, List.length_map,
      List.length_pos_iff_ne_nil]
  rw [Description.groupNames_eq (by rw [halternatives]; rfl) h.length_eq] at hnamed
  obtain ⟨front, r, back, hres, hr, hnot, hgroups⟩ := Regex.named_first h.groups hbodies hsource
    (wrappable_namedBodies h.compiled h.line) (ownRegex_namedBodies h.compiled) hnamed
  exact ⟨front, r, back, hres, hr, hnot, by rw [hgroups, Regex.byteSpan_whole]⟩

/-- One of the groups of a choice that matches a text takes the text, and the others take no
part. -/
theorem taken (h : cr.Assembled c bodies res) {alternatives : List String}
    (halternatives : cr.rule.description = .choice alternatives) (hne : alternatives ≠ [])
    (hnamed : cr.groups.named cr.rule.description.groupNames text = some groups) :
    ∃ front back : ℕ, front + 1 + back = alternatives.length ∧
      groups = List.replicate front none ++ some (wholeSpan text) :: List.replicate back none := by
  obtain ⟨front, r, back, hres, -, -, hgroups⟩ := h.first_taken halternatives hne hnamed
  refine ⟨front.length, back.length, ?_, hgroups⟩
  have hlength := h.components.length_eq
  rw [halternatives, Description.components, List.length_map, hres, List.length_append,
    List.length_cons] at hlength
  omega

end CompiledRule.Assembled

namespace CompiledGrammar

variable {g : Grammar} {c : CompiledGrammar} {source text exclude : String} {e : Explanation}

/-- What compiling a grammar that was read from a text comes down to for one of its rules, where the
literals of the rule are regular expressions on their own. -/
theorem exists_assembled (hparse : Grammar.parse source = .ok g) (hcompile : g.compile = .ok c)
    {cr : CompiledRule} (hcr : cr ∈ c.rules)
    (hvalid : ∀ part ∈ cr.rule.description.components, part.Valid) :
    ∃ bodies res, cr.Assembled c bodies res := by
  obtain ⟨order, hc⟩ := Grammar.exists_order_of_compile hcompile
  obtain ⟨bodies, hbodies, hpattern, hgroups⟩ := Grammar.exists_bodies_of_compile hcompile hcr
  obtain ⟨res, hcomponents, hres⟩ := hbodies.exists_regexes hc.compiled hvalid
  obtain ⟨hmatcher, hanchored⟩ := hc.compiled cr hcr
  exact ⟨bodies, res, hcomponents, hres, Grammar.newline_not_mem_bodies
    (Grammar.readable_of_parse hparse) hcompile hcr hbodies, hpattern ▸ hmatcher,
    hgroups ▸ hanchored⟩

theorem readable_of_mem (hparse : Grammar.parse source = .ok g) (hcompile : g.compile = .ok c)
    {cr : CompiledRule} (hcr : cr ∈ c.rules) : cr.rule.description.Readable := by
  obtain ⟨order, hc⟩ := Grammar.exists_order_of_compile hcompile
  exact (Grammar.readable_of_parse hparse _ (hc.rule_mem hcr)).description

theorem ne_nil_of_readable {alternatives : List String}
    (h : (Description.choice alternatives).Readable) : alternatives ≠ [] := by
  rintro rfl
  exact absurd h.1 (by decide)

/-- All components of a choice or a repetition are names. -/
theorem valid_of_choice {d : Description} {alternatives : List String}
    (h : d = .choice alternatives) : ∀ part ∈ d.components, part.Valid := by
  rw [h, Description.components]
  exact List.forall_mem_map.2 fun _ _ => trivial

theorem valid_of_repetition {d : Description} {rule : String} {min : UInt32} {max : Option UInt32}
    (h : d = .repetition rule min max) : ∀ part ∈ d.components, part.Valid := by
  rw [h, Description.components]
  exact List.forall_mem_singleton.2 trivial

/-! ## Explanations -/

/-- The places of the groups of a composition that explains a text tile the text, one for each part,
where the literal parts are regular expressions on their own. -/
theorem tiles_of_explain (hparse : Grammar.parse source = .ok g) (hcompile : g.compile = .ok c)
    (h : c.explain text exclude = some e) {parts : List Part}
    (hparts : e.rule.description = .composition parts) (hvalid : ∀ part ∈ parts, part.Valid) :
    ∃ ranges, Tiles 0 ranges text.toList.length ∧ ranges.length = parts.length ∧
      e.groups = (ranges.map (byteSpan (offsets text.toList))).map some := by
  obtain ⟨cr, hcr, hrule, -, -, hattempt⟩ := exists_rule_of_explain h
  rw [← hrule] at hparts
  obtain ⟨bodies, res, hassembled⟩ := exists_assembled hparse hcompile hcr
    (by rwa [hparts, Description.components])
  exact hassembled.tiles hparts (named_of_attempt hattempt)

/-- The groups of a composition that explains a text divide the text, one for each part, where the
literal parts are regular expressions on their own. -/
theorem groups_divide (hparse : Grammar.parse source = .ok g) (hcompile : g.compile = .ok c)
    (h : c.explain text exclude = some e) {parts : List Part}
    (hparts : e.rule.description = .composition parts) (hvalid : ∀ part ∈ parts, part.Valid) :
    ∃ spans : List Span, e.groups = spans.map some ∧ spans.length = parts.length ∧
      Adjoin 0 spans (byteSize text.toList) ∧ String.join (spans.map (slice text)) = text := by
  obtain ⟨ranges, htiles, hlength, hgroups⟩ :=
    tiles_of_explain hparse hcompile h hparts hvalid
  obtain ⟨-, hadjoin, hslices⟩ := adjoin_of_tiles htiles (Nat.le_refl _)
  refine ⟨ranges.map (byteSpan (offsets text.toList)), hgroups, ?_, ?_, ?_⟩
  · rw [List.length_map, hlength]
  · simpa using hadjoin
  · rw [← String.toList_inj, String.toList_join, List.flatMap_map, List.flatMap_map, hslices]
    simp

theorem groups_divide_pairs : ∃ (c : CompiledGrammar) (e : Explanation) (spans : List Span),
    Grammar.parse Grammar.pairs.text = .ok Grammar.pairs ∧ Grammar.pairs.compile = .ok c ∧
    c.explain "a=b" "" = some e ∧
    e.rule.description = .composition [.name "key", .literal "=", .name "key"] ∧
    (∀ part ∈ [Part.name "key", .literal "=", .name "key"], part.Valid) ∧
    e.groups = spans.map some ∧ spans.length = 3 ∧ Adjoin 0 spans 3 ∧
    String.join (spans.map (slice "a=b")) = "a=b" := by
  have hparse : Grammar.parse Grammar.pairs.text = .ok Grammar.pairs := by decide +kernel
  have hexplain : Grammar.pairs.compile.toOption.any fun c =>
      (c.explain "a=b" "").any fun e =>
        e.rule.description = .composition [.name "key", .literal "=", .name "key"] := by
    decide +kernel
  have hvalid : ∀ part ∈ [Part.name "key", .literal "=", .name "key"], part.Valid := by
    decide +kernel
  obtain ⟨c, hc, hexplain⟩ := Grammar.exists_ok_of_any hexplain
  obtain ⟨e, he, hparts⟩ := (Option.any_eq_true _ _).1 hexplain
  obtain ⟨spans, hspans⟩ := groups_divide hparse hc he (of_decide_eq_true hparts) hvalid
  exact ⟨c, e, spans, hparse, hc, he, of_decide_eq_true hparts, hvalid, hspans⟩

/-- A literal that closes its own group and opens another one leaves out what stands between. -/
def torn : Grammar :=
  ⟨[⟨"pair", .composition [.literal "a)(b", .literal "c"]⟩]⟩

example : ((torn.compile.toOption.bind fun c => c.explain "abc" "").map Explanation.groups) =
    some [some ⟨0, 1⟩, some ⟨2, 3⟩] := by
  decide +kernel

/-- One of the alternatives of a choice that explains a text takes the text, and the others take no
part. -/
theorem exists_taken (hparse : Grammar.parse source = .ok g) (hcompile : g.compile = .ok c)
    (h : c.explain text exclude = some e) {alternatives : List String}
    (halternatives : e.rule.description = .choice alternatives) :
    ∃ front back : ℕ, front + 1 + back = alternatives.length ∧
      e.groups = List.replicate front none ++ some (wholeSpan text) :: List.replicate back none := by
  obtain ⟨cr, hcr, hrule, -, -, hattempt⟩ := exists_rule_of_explain h
  rw [← hrule] at halternatives
  obtain ⟨bodies, res, hassembled⟩ :=
    exists_assembled hparse hcompile hcr (valid_of_choice halternatives)
  have hreadable := readable_of_mem hparse hcompile hcr
  rw [halternatives] at hreadable
  exact hassembled.taken halternatives (ne_nil_of_readable hreadable) (named_of_attempt hattempt)

/-- A text that a repetition explains is matches of the inner rule laid end to end, in a number
within the bounds. -/
theorem exists_times_of_explain (hparse : Grammar.parse source = .ok g)
    (hcompile : g.compile = .ok c) (h : c.explain text exclude = some e) {rule : String}
    {min : UInt32} {max : Option UInt32}
    (hrepetition : e.rule.description = .repetition rule min max) {r : CompiledRule}
    (hr : c.find? rule = some r) :
    ∃ k, (min.toNat ≤ k ∧ ∀ m ∈ max, k ≤ m.toNat) ∧
      Regex.Times (r.matcher.CanMatch text) k 0 text.toList.length := by
  -- bounds without a quantifier leave no group, and then the rule does not explain anything
  have hdegenerate : ¬Description.Degenerate min max := by
    intro hdegenerate
    have hlength := length_groups_of_explain h
    rw [hrepetition, Description.groupCount, Description.isDegenerate,
      Description.ofBounds?_eq_none_iff.2 hdegenerate] at hlength
    exact groups_ne_nil_of_explain h (List.length_eq_zero_iff.1 hlength)
  obtain ⟨q, hq⟩ := Option.ne_none_iff_exists'.1
    (fun hnone => hdegenerate (Description.ofBounds?_eq_none_iff.1 hnone))
  obtain ⟨cr, hcr, hrule, -, -, hattempt⟩ := exists_rule_of_explain h
  rw [← hrule] at hrepetition
  obtain ⟨bodies, res, hassembled⟩ :=
    exists_assembled hparse hcompile hcr (valid_of_repetition hrepetition)
  obtain ⟨b, r', rfl, -, hr', hinner, hwrap⟩ := hassembled.exists_inner hrepetition
  obtain rfl := Option.some.inj (hr.symm.trans hr')
  have hsource : (Grammar.anchored (cr.rule.description.assembleGroups [b])).toList =
      Regex.Reader.anchor (Regex.wrap (some (groupName 0)) b.toList ++ q.text.toList) := by
    rw [hrepetition, toList_anchored, Description.toList_assembleGroups_repetition hq]
  obtain ⟨k, hk, htimes⟩ := Regex.times_of_named hassembled.groups hsource
    (Description.ordered_of_ofBounds? hq) hinner hwrap (named_of_attempt hattempt)
  rw [Description.bounds_of_ofBounds? hq, Grammar.inBounds_iff hdegenerate] at hk
  have hspans : r.matcher.CanMatch text = r.matcher.pattern.Spans text.toList.toArray := by
    funext i j
    exact propext (Regex.canMatch_iff (Regex.program_of_compile hinner))
  exact ⟨k, hk, hspans ▸ htimes⟩

end CompiledGrammar

end PatternGrammar
