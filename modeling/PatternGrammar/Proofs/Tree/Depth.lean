import Mathlib.Data.List.Basic
import PatternGrammar.Proofs.Tree.Spans

/-!
# How deep searches go

Along a way down the spans of the nodes are nested, but a span can be handed on from one rule to the
next. Over one span each explanation by another rule is new, so that there are no more of these than
rules. Between two of them a node is explained by its own rule, which then is one that the
explanation before refers to; references only go to the front of an order of the rules.

Main results:

* `Builder.length_add_le`: the bound that a stage keeps for the stages up to it.
* `Builder.build_terminates`: searches are at most one level deeper than the number of bytes times
  `n * (n + 1)`, where `n` is the number of rules; the work ends, and it ends with a tree if the
  limit is no less.
-/

namespace PatternGrammar

open PatternGrammar.Text (Span slice? byteSize wholeSpan span_of_slice?)

namespace Builder

variable {b : Builder}

/-! ## References -/

theorem mem_references_of_mem_targets {e : Explanation} {whole group : Span} {name : String}
    (h : (name, group) ∈ targets e whole) : name ∈ e.rule.description.references := by
  unfold targets at h
  unfold Description.references
  split at h
  · rename_i parts hdescription
    obtain ⟨⟨part, group'⟩, hmem, h⟩ := List.mem_filterMap.1 h
    obtain ⟨name', hname, h⟩ := Option.bind_eq_some_iff.1 h
    obtain ⟨group'', -, h⟩ := Option.bind_eq_some_iff.1 h
    obtain ⟨rfl, -⟩ := Prod.mk.inj (Option.some.inj h)
    rw [hdescription]
    exact List.mem_filterMap.2 ⟨part, (List.of_mem_zip hmem).1, hname⟩
  · rename_i alternatives hdescription
    obtain ⟨⟨name', group'⟩, hmem, h⟩ := List.mem_filterMap.1 h
    obtain ⟨group'', -, h⟩ := Option.bind_eq_some_iff.1 h
    obtain ⟨rfl, -⟩ := Prod.mk.inj (Option.some.inj h)
    rw [hdescription]
    exact List.mem_filterMap.2
      ⟨.name name', List.mem_map_of_mem (List.of_mem_zip hmem).1, rfl⟩
  · rename_i hdescription
    obtain ⟨rfl, -⟩ := Prod.mk.inj (List.mem_singleton.1 h)
    rw [hdescription]
    exact List.mem_singleton_self _
  · simp at h

/-- An explanation leads to rules that its rule refers to. -/
theorem mem_references_of_mem_parts {e : Explanation} {span : Span} {part : Rule × Span}
    (h : part ∈ b.parts e span) : part.1.name ∈ e.rule.description.references := by
  obtain ⟨⟨name, group⟩, htarget, hfind⟩ := List.mem_filterMap.1 h
  obtain ⟨r, hr, rfl⟩ := Option.map_eq_some_iff.1 hfind
  rw [show r.rule.name = name from CompiledGrammar.name_of_find? hr]
  exact mem_references_of_mem_targets htarget

theorem exists_rule_of_explanation {rule : Rule} {span : Span} {e : Explanation}
    (h : b.explanation rule span = some e) : ∃ r ∈ b.grammar.rules, r.rule = e.rule := by
  obtain ⟨r, hr, hrule, -⟩ :=
    CompiledGrammar.exists_rule_of_explain (Option.filter_eq_some_iff.1 h).1
  exact ⟨r, hr, hrule⟩

/-! ## Explanations by other rules over one span -/

/-- The names of the rules on a way down that explain a node of another rule over the given span. -/
def othersOver (span : Span) (stages : List Stage) : List String :=
  (stages.filter fun s => !s.isOwn && s.span == span).map (·.explanation.rule.name)

theorem othersOver_cons (span : Span) (stage : Stage) (above : List Stage) :
    othersOver span (stage :: above) =
      if !stage.isOwn && stage.span == span then
        stage.explanation.rule.name :: othersOver span above
      else othersOver span above := by
  rw [othersOver, List.filter_cons]
  split <;> rfl

theorem mem_keysOf_of_mem_othersOver {span : Span} {stages : List Stage} {name : String}
    (h : name ∈ othersOver span stages) : (name, span) ∈ b.keysOf stages := by
  induction stages with
  | nil => simp [othersOver] at h
  | cons stage above ih =>
    rw [keysOf]
    rw [othersOver_cons] at h
    split at h
    · rename_i hstage
      rw [Bool.and_eq_true, Bool.not_eq_true', beq_iff_eq] at hstage
      rcases List.mem_cons.1 h with rfl | h
      · refine List.mem_append_left _ ?_
        rw [Stage.attached, hstage.1, ← hstage.2]
        exact List.mem_singleton_self _
      · exact List.mem_append_right _ (List.mem_cons_of_mem _ (ih h))
    · exact List.mem_append_right _ (List.mem_cons_of_mem _ (ih h))

/-- Over one span no other rule explains twice. -/
theorem nodup_othersOver (span : Span) {stages : List Stage} (h : b.Descends stages) :
    (othersOver span stages).Nodup := by
  induction h with
  | root => exact List.nodup_nil
  | @inside stage above outer habove _ _ _ hguard ih =>
    rw [othersOver_cons]
    split
    · rename_i hstage
      rw [Bool.and_eq_true, Bool.not_eq_true', beq_iff_eq] at hstage
      refine List.nodup_cons.2 ⟨fun hmem => hguard hstage.1 ?_, ih⟩
      rw [Stage.explained, hstage.2]
      exact mem_keysOf_of_mem_othersOver hmem
    · exact ih

theorem exists_rule_of_mem_othersOver {span : Span} {stages : List Stage} (h : b.Descends stages)
    {name : String} (hname : name ∈ othersOver span stages) :
    ∃ r ∈ b.grammar.rules, r.rule.name = name := by
  induction h with
  | root => simp [othersOver] at hname
  | @inside stage above outer _ _ _ hexplanation _ ih =>
    rw [othersOver_cons] at hname
    split at hname
    · rcases List.mem_cons.1 hname with rfl | hname
      · obtain ⟨r, hr, hrule⟩ := exists_rule_of_explanation hexplanation
        exact ⟨r, hr, by rw [hrule]⟩
      · exact ih hname
    · exact ih hname

variable {g : Grammar} {order : List String}

theorem length_othersOver_le (hc : g.CompilesTo b.grammar order) (span : Span)
    {stages : List Stage} (h : b.Descends stages) :
    (othersOver span stages).length ≤ g.rules.length := by
  refine Grammar.CompilesTo.length_le_of_nodup (nodup_othersOver span h) fun name hname => ?_
  obtain ⟨r, hr, rfl⟩ := exists_rule_of_mem_othersOver h hname
  exact ⟨r.rule, hc.rule_mem hr, rfl⟩

/-! ## Counting stages -/

/-- The place of the rule of an explanation in the order of the rules. -/
def rank (order : List String) (stage : Stage) : ℕ := order.idxOf stage.explanation.rule.name

/-- The number of bytes that a span covers. -/
def width (span : Span) : ℕ := span.stop - span.start

theorem width_le (hc : g.CompilesTo b.grammar order) {stages : List Stage}
    (h : b.Descends stages) : width (b.spanAt stages) ≤ byteSize b.input.toList := by
  obtain ⟨t, ht⟩ := Option.isSome_iff_exists.1 (span_of_descends hc.compiled h).1
  have := span_of_slice? ht
  unfold width
  omega

theorem width_lt_of_within {inner outer : Span} (h : inner.Within outer) (hpos : 0 < width inner)
    (hne : inner ≠ outer) : width inner < width outer := by
  obtain ⟨hstart, hstop⟩ := h
  unfold width at *
  by_contra hle
  apply hne
  have hstart' : inner.start = outer.start := by omega
  have hstop' : inner.stop = outer.stop := by omega
  cases inner
  cases outer
  rw [Span.mk.injEq]
  exact ⟨hstart', hstop'⟩

theorem rank_lt_length (hc : g.CompilesTo b.grammar order) {stage : Stage} {above : List Stage}
    (h : b.Descends (stage :: above)) : rank order stage < g.rules.length := by
  cases h with
  | inside _ _ _ hexplanation _ =>
    obtain ⟨r, hr, hrule⟩ := exists_rule_of_explanation hexplanation
    have := hc.rank_lt_length hr
    rwa [hrule] at this

/-- The span of a stage is no larger than that of the stage before, and not empty. -/
theorem width_of_descends (hc : g.CompilesTo b.grammar order) {stage : Stage} {above : List Stage}
    (h : b.Descends (stage :: above)) :
    stage.span.Within (b.spanAt above) ∧ 0 < width stage.span := by
  cases h with
  | inside habove hsearch hfound _ _ =>
    obtain ⟨-, hwithin, hne⟩ := span_of_found hc.compiled habove hsearch hfound
    exact ⟨hwithin, Nat.sub_pos_of_lt hne⟩

/-- Where a span is handed on, one more rule explains it, or one in front of the last one does. -/
theorem explained_again (hc : g.CompilesTo b.grammar order) {stage last : Stage}
    {above : List Stage} (h : b.Descends (stage :: last :: above))
    (hspan : stage.span = last.span) :
    (othersOver stage.span (stage :: last :: above)).length =
        (othersOver last.span (last :: above)).length + 1 ∨
      (othersOver stage.span (stage :: last :: above)).length =
        (othersOver last.span (last :: above)).length ∧ rank order stage < rank order last := by
  rw [othersOver_cons stage.span stage (last :: above)]
  cases hown : stage.isOwn with
  | false =>
    left
    simp [hspan]
  | true =>
    refine .inr ⟨by simp [hspan], ?_⟩
    cases h with
    | inside habove hsearch _ _ _ =>
      cases habove with
      | inside _ _ _ hexplanation _ =>
        obtain ⟨r, hr, hrule⟩ := exists_rule_of_explanation hexplanation
        have href := mem_references_of_mem_parts hsearch
        rw [← hrule] at href
        have hlt := hc.rank_lt hr href
        rw [Stage.isOwn, beq_iff_eq] at hown
        rwa [hrule, ← hown] at hlt

/-- What a stage leaves of the bytes, of the rules that have not explained its span, and of the
rules in front of the one that explains it, goes down from stage to stage. -/
theorem length_add_le (hc : g.CompilesTo b.grammar order) {stage : Stage} {above : List Stage}
    (h : b.Descends (stage :: above)) :
    (stage :: above).length + rank order stage +
        width stage.span * (g.rules.length * (g.rules.length + 1)) ≤
      byteSize b.input.toList * (g.rules.length * (g.rules.length + 1)) +
        (othersOver stage.span (stage :: above)).length * g.rules.length + g.rules.length := by
  induction above generalizing stage with
  | nil =>
    have hrank := rank_lt_length hc h
    have hwidth : width stage.span ≤ byteSize b.input.toList := width_le hc h
    have hbytes := Nat.mul_le_mul_right (g.rules.length * (g.rules.length + 1)) hwidth
    rw [List.length_singleton]
    omega
  | cons last above ih =>
    have hrank := rank_lt_length hc h
    have hwithin : stage.span.Within last.span := (width_of_descends hc h).1
    have habove : b.Descends (last :: above) := by
      cases h with
      | inside habove _ _ _ _ => exact habove
    have hlast := ih habove
    have hlength : (stage :: last :: above).length = (last :: above).length + 1 := rfl
    rw [hlength]
    by_cases hspan : stage.span = last.span
    · -- the span is handed on
      rcases explained_again hc h hspan with hmore | ⟨hsame, hfront⟩
      · rw [hmore, hspan, Nat.succ_mul]
        omega
      · rw [hsame, hspan]
        omega
    · -- the span shrinks, which pays for all rules that can explain the new one
      have hwidth := width_lt_of_within hwithin (width_of_descends hc h).2 hspan
      have hbytes := Nat.mul_le_mul_right (g.rules.length * (g.rules.length + 1)) hwidth
      have hothers := Nat.mul_le_mul_right g.rules.length (length_othersOver_le hc last.span habove)
      have hall : g.rules.length * (g.rules.length + 1) =
          g.rules.length * g.rules.length + g.rules.length := Nat.mul_succ _ _
      rw [Nat.succ_mul] at hbytes
      omega

/-! ## The bound -/

/-- The deepest level that searches can reach. -/
def depthBound (g : Grammar) (input : String) : ℕ :=
  1 + byteSize input.toList * g.rules.length * (g.rules.length + 1)

theorem length_lt_depthBound (hc : g.CompilesTo b.grammar order) {stages : List Stage}
    (h : b.Descends stages) : stages.length < depthBound g b.input := by
  unfold depthBound
  cases stages with
  | nil =>
    rw [List.length_nil]
    omega
  | cons stage above =>
    have hlength := length_add_le hc h
    have hothers := Nat.mul_le_mul_right g.rules.length (length_othersOver_le hc stage.span h)
    have hbytes := Nat.mul_le_mul_right (g.rules.length * (g.rules.length + 1))
      (width_of_descends hc h).2
    have hall : g.rules.length * (g.rules.length + 1) =
        g.rules.length * g.rules.length + g.rules.length := Nat.mul_succ _ _
    rw [Nat.succ_mul, Nat.zero_mul] at hbytes
    rw [Nat.mul_assoc]
    omega

theorem depth_le_depthBound (hc : g.CompilesTo b.grammar order) (turns : ℕ) :
    ∀ s ∈ (b.stateAfter turns).2, s.depth ≤ depthBound g b.input := by
  intro s hs
  obtain ⟨stages, hwaits⟩ := (consistent_stateAfter b turns).2 s hs
  rw [hwaits.depth]
  exact length_lt_depthBound hc hwaits.descends

theorem fits_of_depthBound_le (hc : g.CompilesTo b.grammar order)
    (hlimit : depthBound g b.input ≤ b.maxDepth) (turns : ℕ) : b.Fits turns := by
  intro s hs
  exact Nat.le_trans (depth_le_depthBound hc turns s (List.mem_of_mem_head? hs)) hlimit

/-- The work comes to an end, whatever the limit. -/
theorem exists_end (hc : g.CompilesTo b.grammar order) : ∃ last, (b.stateAfter last).2 = [] := by
  -- the states are those of a run that is allowed to go as deep as the bound
  have hlimit : depthBound g b.input ≤ (b.withLimit (depthBound g b.input)).maxDepth :=
    Nat.le_refl _
  obtain ⟨t, ht⟩ := exists_build_eq_ok
    (fits_of_depthBound_le (b := b.withLimit (depthBound g b.input)) hc hlimit)
  obtain ⟨last, -, hend, -⟩ := build_eq_ok_iff.1 ht
  rw [stateAfter_withLimit] at hend
  exact ⟨last, hend⟩

/-- For a grammar that compiles and any input: no search is ever deeper than the bound, after some
number of turns no search waits, and a limit that is no less than the bound is never exceeded. -/
theorem build_terminates {g : Grammar} {c : CompiledGrammar} (hc : g.compile = .ok c)
    (input : String) (maxDepth : ℕ) :
    (∀ turns, ∀ s ∈ ((Builder.mk c input maxDepth).stateAfter turns).2,
        s.depth ≤ 1 + byteSize input.toList * g.rules.length * (g.rules.length + 1)) ∧
      (∃ turns, ((Builder.mk c input maxDepth).stateAfter turns).2 = []) ∧
      (1 + byteSize input.toList * g.rules.length * (g.rules.length + 1) ≤ maxDepth →
        ∃ t, (Builder.mk c input maxDepth).build = .ok t) := by
  obtain ⟨order, hcompiles⟩ := Grammar.exists_order_of_compile hc
  refine ⟨fun turns => depth_le_depthBound (b := Builder.mk c input maxDepth) hcompiles turns,
    exists_end (b := Builder.mk c input maxDepth) hcompiles, fun hlimit => ?_⟩
  exact exists_build_eq_ok
    (fits_of_depthBound_le (b := Builder.mk c input maxDepth) hcompiles hlimit)

theorem build_terminates_pairs : ∃ c t, Grammar.pairs.compile = .ok c ∧
    (∀ turns, ∀ s ∈ ((Builder.mk c "a=b" 19).stateAfter turns).2, s.depth ≤ 19) ∧
    (Builder.mk c "a=b" 19).build = .ok t := by
  obtain ⟨c, hc⟩ := Grammar.exists_compile_pairs
  have hbound : 1 + byteSize "a=b".toList * Grammar.pairs.rules.length *
      (Grammar.pairs.rules.length + 1) = 19 := by decide
  obtain ⟨hdepth, -, hbuild⟩ := build_terminates hc "a=b" 19
  rw [hbound] at hdepth hbuild
  obtain ⟨t, ht⟩ := hbuild (Nat.le_refl 19)
  exact ⟨c, t, hc, hdepth, ht⟩

end Builder

end PatternGrammar
