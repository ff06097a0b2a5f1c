import PatternGrammar.Proofs.Tree.Spans

/-!
# The limit on the depth of searches

The states that the work goes through are the same for all limits; a limit only decides at which of
them the work stops. A larger limit therefore never changes a tree. Work that stops does so at the
first search on top of the stack that is too deep, and since a turn leads one level down, this search
is exactly one level below the limit.

Main results:

* `Builder.depth_le_of_fits`: as long as no search was too deep, those that wait are at most one
  level below the limit.
* `Builder.build_limit`: a tree is the same for all larger limits, and what an error tells.
-/

namespace PatternGrammar

open PatternGrammar.Text (Span)

namespace Builder

variable {b : Builder} {g : Grammar} {order : List String}

/-! ## Larger limits -/

theorem Fits.mono {limit turns : ℕ} (h : b.Fits turns) (hlimit : b.maxDepth ≤ limit) :
    (b.withLimit limit).Fits turns := by
  intro s hs
  rw [stateAfter_withLimit] at hs
  have hdepth := h s hs
  exact Nat.le_trans hdepth hlimit

/-- A tree that is built is also built with a larger limit. -/
theorem build_withLimit {t : Tree} {limit : ℕ} (h : b.build = .ok t) (hlimit : b.maxDepth ≤ limit) :
    (b.withLimit limit).build = .ok t := by
  obtain ⟨turns, hfits, hend, ht⟩ := build_eq_ok_iff.1 h
  rw [build_eq_ok_iff]
  refine ⟨turns, fun n hn => (hfits n hn).mono hlimit, ?_, ?_⟩
  · rw [stateAfter_withLimit]
    exact hend
  · rw [stateAfter_withLimit]
    exact ht

/-! ## Where the work stops -/

/-- All searches before it were allowed, and now it is the turn of this one, which is not. -/
def StopsAt (b : Builder) (s : Search) : Prop :=
  ∃ turns rest, (∀ n < turns, b.Fits n) ∧ (b.stateAfter turns).2 = s :: rest ∧ ¬b.Fits turns

/-- Building fails iff the work stops at a search, whose rule and span the error tells. -/
theorem build_eq_error_iff_stopsAt {e : DepthExceeded} :
    b.build = .error e ↔ ∃ s, b.StopsAt s ∧ e = ⟨b.maxDepth, s.rule.name, s.span⟩ := by
  rw [build_eq_error_iff]
  constructor
  · rintro ⟨turns, hfits, s, hs, hdeep, rfl⟩
    obtain ⟨rest, hstack⟩ := List.head?_eq_some_iff.1 hs
    refine ⟨s, ⟨turns, rest, hfits, hstack, fun hfit => ?_⟩, rfl⟩
    have hdepth := hfit s hs
    omega
  · rintro ⟨s, ⟨turns, rest, hfits, hstack, hdeep⟩, rfl⟩
    obtain ⟨s', hs', hdeep⟩ := exists_of_not_fits hdeep
    obtain rfl : s = s' := by
      rw [hstack] at hs'
      exact Option.some.inj hs'
    exact ⟨turns, hfits, s, hs', hdeep, rfl⟩

/-- As long as no search was too deep, those that wait are at most one level below the limit. -/
theorem depth_le_of_fits {turns : ℕ} (h : ∀ n < turns, b.Fits n) :
    ∀ s ∈ (b.stateAfter turns).2, s.depth ≤ b.maxDepth + 1 := by
  induction turns with
  | zero =>
    intro s hs
    have hdepth := (b.initial_consistent.2 s hs).depth
    rw [List.length_nil] at hdepth
    omega
  | succ turns ih =>
    have hbefore := ih fun n hn => h n (Nat.lt_succ_of_lt hn)
    cases hstack : (b.stateAfter turns).2 with
    | nil =>
      rw [stateAfter_of_end hstack (Nat.le_succ turns)]
      exact hbefore
    | cons top rest =>
      rw [stateAfter_succ hstack]
      intro s hs
      rcases List.mem_append.1 hs with hs | hs
      · -- the search on top of the stack was allowed, and leads one level down
        have htop : top.depth ≤ b.maxDepth := by
          apply h turns (Nat.lt_succ_self turns)
          rw [hstack]
          rfl
        have hdepth := depth_step hs
        omega
      · apply hbefore
        rw [hstack]
        exact List.mem_cons_of_mem _ hs

/-- The work stops one level below the limit. -/
theorem StopsAt.depth_eq {s : Search} (h : b.StopsAt s) : s.depth = b.maxDepth + 1 := by
  obtain ⟨turns, rest, hfits, hstack, hdeep⟩ := h
  obtain ⟨s', hs', hdeep⟩ := exists_of_not_fits hdeep
  rw [hstack] at hs'
  obtain rfl := Option.some.inj hs'
  have hle := depth_le_of_fits hfits s (by rw [hstack]; exact List.mem_cons_self)
  omega

/-! ## The rules that are searched -/

theorem exists_rule_of_mem_parts {e : Explanation} {span : Span} {part : Rule × Span}
    (h : part ∈ b.parts e span) : ∃ r ∈ b.grammar.rules, r.rule = part.1 := by
  obtain ⟨⟨name, group⟩, -, hfind⟩ := List.mem_filterMap.1 h
  obtain ⟨r, hr, rfl⟩ := Option.map_eq_some_iff.1 hfind
  exact ⟨r, CompiledGrammar.mem_of_find? hr, rfl⟩

/-- On a way down only rules of the grammar are searched. -/
theorem exists_rule_of_mem_searchesAt {stages : List Stage} {search : Rule × Span}
    (h : search ∈ b.searchesAt stages) : ∃ r ∈ b.grammar.rules, r.rule = search.1 := by
  cases stages with
  | cons stage above => exact exists_rule_of_mem_parts h
  | nil =>
    rcases List.mem_append.1 h with h | h
    · cases hroot : b.rootStage? with
      | none =>
        rw [hroot] at h
        simp at h
      | some stage =>
        rw [hroot] at h
        exact exists_rule_of_mem_parts h
    · split at h
      · obtain rfl := List.mem_singleton.1 h
        exact ⟨b.grammar.first, List.mem_cons_self, rfl⟩
      · simp at h

/-- The work stops at a search of a rule of the grammar, in a range of the input. -/
theorem StopsAt.rule_mem_and_inRange (hc : g.CompilesTo b.grammar order) {s : Search}
    (h : b.StopsAt s) : s.rule ∈ g.rules ∧ s.span.InRange b.input := by
  obtain ⟨turns, rest, -, hstack, -⟩ := h
  have hs : s ∈ (b.stateAfter turns).2 := by
    rw [hstack]
    exact List.mem_cons_self
  obtain ⟨stages, hwaits⟩ := (consistent_stateAfter b turns).2 s hs
  constructor
  · obtain ⟨r, hr, hrule⟩ := exists_rule_of_mem_searchesAt hwaits.search
    have hmem := hc.rule_mem hr
    rwa [hrule] at hmem
  · exact (slicesInRange_stateAfter hc.compiled turns).searches s hs

/-! ## Trees and errors -/

/-- For a grammar that compiles and any input: a tree that is built with a limit is also built with
all larger limits. An error tells the limit, the name of a rule of the grammar and a range of the
input; they are those of the search at which the work has stopped, exactly one level below the
limit. -/
theorem build_limit {c : CompiledGrammar} (hc : g.compile = .ok c) (input : String) :
    (∀ limit limit' t, limit ≤ limit' → (Builder.mk c input limit).build = .ok t →
        (Builder.mk c input limit').build = .ok t) ∧
      ∀ limit e, (Builder.mk c input limit).build = .error e →
        e.limit = limit ∧ (∃ r ∈ g.rules, r.name = e.rule) ∧ e.span.InRange input ∧
          ∃ s, (Builder.mk c input limit).StopsAt s ∧ s.rule.name = e.rule ∧ s.span = e.span ∧
            s.depth = limit + 1 := by
  obtain ⟨order, hcompiles⟩ := Grammar.exists_order_of_compile hc
  constructor
  · intro limit limit' t hle ht
    exact build_withLimit (b := Builder.mk c input limit) ht hle
  · intro limit e he
    obtain ⟨s, hstops, rfl⟩ := build_eq_error_iff_stopsAt.1 he
    obtain ⟨hmem, hrange⟩ :=
      StopsAt.rule_mem_and_inRange (b := Builder.mk c input limit) hcompiles hstops
    exact ⟨rfl, ⟨s.rule, hmem, rfl⟩, hrange, s, hstops, rfl, rfl, hstops.depth_eq⟩

/-- Lines of words that are followed by gaps. -/
def words : Grammar :=
  ⟨[⟨"line", .repetition "word" 1 none⟩, ⟨"word", .composition [.name "letters", .name "gap"]⟩,
    ⟨"letters", .literal "[a-z]+"⟩, ⟨"gap", .literal " *"⟩]⟩

theorem build_limit_words : ∃ c t, words.compile = .ok c ∧
    (Builder.mk c "ab" 2).build = .ok t ∧ (Builder.mk c "ab" 512).build = .ok t ∧
    (Builder.mk c "ab" 1).build = .error ⟨1, "letters", ⟨0, 2⟩⟩ ∧
    ∃ s, (Builder.mk c "ab" 1).StopsAt s ∧ s.rule.name = "letters" ∧ s.depth = 2 := by
  have hrun : words.compile.toOption.any fun c : CompiledGrammar =>
      decide (((∀ n < (3 : ℕ), (Builder.mk c "ab" 2).Fits n) ∧
          ((Builder.mk c "ab" 2).stateAfter 3).2.isEmpty) ∧ (Builder.mk c "ab" 1).Fits 0) &&
        ((Builder.mk c "ab" 1).stateAfter 1).2.head?.any fun s =>
          decide (1 < s.depth ∧ s.rule.name = "letters" ∧ s.span = ⟨0, 2⟩) := by decide +kernel
  obtain ⟨c, hc, hrun⟩ := Grammar.exists_ok_of_any hrun
  obtain ⟨hstates, htop⟩ := Bool.and_eq_true_iff.1 hrun
  obtain ⟨⟨hfits, hend⟩, hfirst⟩ := of_decide_eq_true hstates
  obtain ⟨s, hs, htop⟩ := (Option.any_eq_true _ _).1 htop
  obtain ⟨hdeep, hrule, hspan⟩ := of_decide_eq_true htop
  have ht := build_eq_ok_iff.2 ⟨3, hfits, List.isEmpty_iff.1 hend, rfl⟩
  have he : (Builder.mk c "ab" 1).build = .error ⟨1, "letters", ⟨0, 2⟩⟩ := by
    refine build_eq_error_iff.2 ⟨1, fun n hn => ?_, s, hs, hdeep, by rw [hrule, hspan]⟩
    obtain rfl : n = 0 := by omega
    exact hfirst
  obtain ⟨hlarger, hstop⟩ := build_limit hc "ab"
  obtain ⟨-, -, -, s', hstops, hrule', -, hdepth⟩ := hstop 1 _ he
  exact ⟨c, _, hc, ht, hlarger 2 512 _ (by omega) ht, he, s', hstops, hrule', hdepth⟩

end Builder

end PatternGrammar
