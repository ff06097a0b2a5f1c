import PatternGrammar.Proofs.Regex.AllMatches
import PatternGrammar.Proofs.Tree.Anatomy

/-!
# Rounds of a repetition

A node that a repetition explains is searched for the inner rule from its start to its end, without
regard to how the repetition matched and to its bounds. Where the inner rule has no empty match, the
first child begins where the node does. The children divide the node, in a number within the bounds,
where matches of the inner rule that are laid end to end can always be carried on to the end, and
come there in such a number; so it is where a match ends at one place only
(`Regex.DividesAnyWay`, `Regex.Unambiguous`). Else they can leave a gap, and can be too few
(`Builder.exists_rounds_with_gap_and_too_few`).

Main result: `Builder.children_go_round`.
-/

namespace PatternGrammar

open PatternGrammar.Text (Span slice)
open Regex (Times allMatches byteSpan offsets)
open Recursion (hits)

theorem Adjoin.shift {spans : List Span} {i j : ℕ} (h : Adjoin i spans j) (offset : ℕ) :
    Adjoin (offset + i) (spans.map (·.shift offset)) (offset + j) := by
  induction spans generalizing i with
  | nil => exact congrArg (offset + ·) h
  | cons s spans ih =>
    obtain ⟨rfl, hrest⟩ := h
    exact ⟨rfl, ih hrest⟩

namespace Builder

/-- The children of a node are the matches of a rule that its text repeats, in a number between the
bounds. -/
structure GoesRound (b : Builder) (n : Tree) (e : Explanation) (r : CompiledRule) (low : ℕ)
    (high : Option ℕ) : Prop extends ExplainedBy b.grammar n e where
  children_rule : ∀ child ∈ n.children, child.rule = r.rule
  spans_eq : n.children.map Tree.span = hits b.input r n.span
  begins : r.matcher.NeverEmpty n.text → ∃ first rest, n.children = first :: rest ∧
    first.span.start = n.span.start
  divided : r.matcher.NeverEmpty n.text →
    r.matcher.DividesAnyWay n.text low high ∨ r.matcher.Unambiguous n.text →
      Adjoin n.span.start (n.children.map Tree.span) n.span.stop ∧
        low ≤ n.children.length ∧ ∀ m ∈ high, n.children.length ≤ m

variable {b : Builder} {t n : Tree} {e : Explanation} {path : List (String × Span)}
  {above : List Tree} {source : String} {g : Grammar} {r : CompiledRule} {span : Span}

/-! ## Matches in a span -/

theorem hits_eq_map (hr : Grammar.CompiledFrom r) (input : String) (span : Span) :
    hits input r span =
      (((allMatches r.matcher.program (slice input span).toList.toArray).filter
        fun m => m.1 != m.2).map (byteSpan (offsets (slice input span).toList))).map
          (·.shift span.start) := by
  rw [hits, Regex.filter_findAll (Regex.program_of_compile hr.1)]

/-- In a text that is matches laid end to end, the first match that is found begins at the start. -/
theorem exists_first_hit (hr : Grammar.CompiledFrom r) (hspan : span.InRange b.input)
    (hne : span.start < span.stop) (hempty : r.matcher.NeverEmpty (slice b.input span)) {k : ℕ}
    (htimes : Times (r.matcher.CanMatch (slice b.input span)) k 0
      (slice b.input span).toList.length) :
    ∃ m rest, hits b.input r span = m :: rest ∧ m.start = span.start := by
  cases k with
  | zero =>
    -- no matches at all make the empty text
    have hsize := byteSize_slice hspan
    have hnil : (slice b.input span).toList = [] := List.length_eq_zero_iff.1 (Eq.symm htimes)
    rw [hnil, Text.byteSize_nil] at hsize
    omega
  | succ k =>
    obtain ⟨j, hmatch, -⟩ := htimes
    obtain ⟨stop, ms, hms, hfirst⟩ := Regex.allMatches_eq_cons hr.1 hmatch
    have hstop : 0 ≠ stop := fun hzero => hempty 0 (by rwa [← hzero] at hfirst)
    rw [hits_eq_map hr, hms, List.filter_cons_of_pos (by simpa using hstop)]
    refine ⟨_, _, rfl, ?_⟩
    show span.start + (byteSpan (offsets (slice b.input span).toList) (0, stop)).start = span.start
    rw [byteSpan, Regex.getD_offsets (Nat.zero_le _)]
    simp

/-- Where a text is divided by matches in any way, the matches that are found in it lie next to each
other, in a number between the bounds. -/
theorem adjoin_hits (hr : Grammar.CompiledFrom r) (hspan : span.InRange b.input)
    (hempty : r.matcher.NeverEmpty (slice b.input span)) {low : ℕ} {high : Option ℕ}
    (hdivides : r.matcher.DividesAnyWay (slice b.input span) low high) :
    Adjoin span.start (hits b.input r span) span.stop ∧
      low ≤ (hits b.input r span).length ∧ ∀ m ∈ high, (hits b.input r span).length ≤ m := by
  obtain ⟨htiles, hne, hlow, hhigh⟩ := Regex.tiles_allMatches hr.1 hempty hdivides
  obtain ⟨-, hadjoin, -⟩ := adjoin_of_tiles htiles (Nat.le_refl _)
  have hall : (allMatches r.matcher.program (slice b.input span).toList.toArray).filter
      (fun m => m.1 != m.2) = allMatches r.matcher.program (slice b.input span).toList.toArray :=
    List.filter_eq_self.2 fun m hm => by simpa using hne m hm
  rw [hits_eq_map hr, hall]
  refine ⟨?_, by simpa using hlow, by simpa using hhigh⟩
  have hshift := hadjoin.shift span.start
  rwa [List.take_zero, List.take_length, byteSize_slice hspan] at hshift

/-! ## Rounds -/

section

variable (hparse : Grammar.parse source = .ok g) (hcompile : g.compile = .ok b.grammar)

include hparse hcompile

/-- A repetition leads to one search, in the whole span of the node. -/
theorem Opened.foundRow_of_repetition (h : b.Opened path n e) {rule : String} {min : UInt32}
    {max : Option UInt32} (he : e.rule.description = .repetition rule min max) :
    ∃ r, b.grammar.find? rule = some r ∧ b.FoundRow (n.key :: path) r n.span n.children := by
  have htargets : targets e ⟨0, n.span.stop - n.span.start⟩ =
      [(rule, ⟨0, n.span.stop - n.span.start⟩)] := by rw [targets, he]
  have hwhole : (⟨0, n.span.stop - n.span.start⟩ : Span).shift n.span.start = n.span := by
    rw [Span.shift, Nat.add_zero, Nat.add_sub_cancel' (Nat.le_of_lt h.nonempty)]
  obtain ⟨rows, hchildren, hrows⟩ := h.exists_rows hparse hcompile
  rw [htargets] at hrows
  obtain ⟨row, _, ⟨r, hr, -, hfound⟩, hnil, rfl⟩ := List.forall₂_cons_left_iff.1 hrows
  obtain rfl := List.forall₂_nil_left_iff.1 hnil
  rw [List.flatten_cons, List.flatten_nil, List.append_nil] at hchildren
  rw [hwhole, ← hchildren] at hfound
  exact ⟨r, hr, hfound⟩

/-- The children of a node that the work went on in by the explanation of a repetition. -/
theorem Opened.goesRound (h : b.Opened path n e) {rule : String} {min : UInt32}
    {max : Option UInt32} (he : e.rule.description = .repetition rule min max) :
    ∃ r, b.grammar.find? rule = some r ∧
      b.GoesRound n e r min.toNat (max.map UInt32.toNat) := by
  obtain ⟨order, hc⟩ := Grammar.exists_order_of_compile hcompile
  obtain ⟨r, hr, hfound⟩ := h.foundRow_of_repetition hparse hcompile he
  have hcompiled := hc.compiled r (CompiledGrammar.mem_of_find? hr)
  obtain ⟨-, exclude, hexplanation⟩ := h.explainedBy
  obtain ⟨k, ⟨hlow, hhigh⟩, htimes⟩ :=
    CompiledGrammar.exists_times_of_explain hparse hcompile hexplanation he hr
  rw [h.text_eq] at htimes
  have hlength : n.children.length = (hits b.input r n.span).length := by
    rw [← hfound.map_span, List.length_map]
  refine ⟨r, hr, h.explainedBy, fun child hchild => (hfound.of_mem hchild).2.1, hfound.map_span,
    fun hempty => ?_, fun hempty hdivides => ?_⟩
  · rw [h.text_eq] at hempty
    obtain ⟨m, rest, hhits, hstart⟩ :=
      exists_first_hit hcompiled h.inRange h.nonempty hempty htimes
    rw [← hfound.map_span, List.map_eq_cons_iff] at hhits
    obtain ⟨first, others, hfirst, rfl, -⟩ := hhits
    exact ⟨first, others, hfirst, hstart⟩
  · rw [h.text_eq] at hempty hdivides
    rw [hlength, hfound.map_span]
    refine adjoin_hits hcompiled h.inRange hempty (hdivides.elim id fun hunique => ?_)
    exact Regex.dividesAnyWay_of_unambiguous (Regex.program_of_compile hcompiled.1) hempty hunique
      htimes ⟨hlow, by simpa using hhigh⟩

end

/-- For a grammar that is read from a source and compiles, any input and any limit: where the work
went on in a node by the explanation of a repetition, its children are the matches of the inner rule
that are found in the text of the node. Where the inner rule has no empty match there, the first one
begins where the node does; they divide the node, in a number between the bounds, where matches that
are laid end to end do so in any way, and where a match ends at one place only. -/
theorem children_go_round {c : CompiledGrammar} (hparse : Grammar.parse source = .ok g)
    (hcompile : g.compile = .ok c) (input : String) (maxDepth : ℕ) :
    ∀ t, (Builder.mk c input maxDepth).build = .ok t → ∀ n above e,
      (Builder.mk c input maxDepth).Explained t n above e →
        ∀ rule min max, e.rule.description = .repetition rule min max →
          ∃ r, c.find? rule = some r ∧
            (Builder.mk c input maxDepth).GoesRound n e r min.toNat (max.map UInt32.toNat) :=
  fun _ hbuild _ _ _ hexplained _ _ _ he =>
    (opened_of_explained (b := Builder.mk c input maxDepth) hparse hcompile hbuild
      hexplained).goesRound hparse hcompile he

/-- Numbers as digits. -/
def digits : String := "number := digit+\ndigit := \x7b[0-9]\x7d\n"

theorem children_go_round_digits : ∃ g c t n e r, Grammar.parse digits = .ok g ∧
    g.compile = .ok c ∧ (Builder.mk c "42" 512).build = .ok t ∧
    (Builder.mk c "42" 512).Explained t n [] e ∧
    e.rule.description = .repetition "digit" 1 none ∧ c.find? "digit" = some r ∧
    (Builder.mk c "42" 512).GoesRound n e r 1 none ∧
    Adjoin n.span.start (n.children.map Tree.span) n.span.stop := by
  have hrun : (Grammar.parse digits).toOption.any fun g : Grammar =>
      g.compile.toOption.any fun c : CompiledGrammar =>
        (c.find? "digit").any fun r : CompiledRule =>
          decide ((Builder.mk c "42" 512).EndsWith 1
              ⟨⟨"number", .repetition "digit" 1 none⟩, [some ⟨1, 2⟩]⟩ ⟨0, 2⟩
              [("digit", ⟨0, 1⟩), ("digit", ⟨1, 2⟩)] ∧
            r.matcher.pattern.width? = some 1 ∧ r.matcher.pattern.minLength = some 1) := by
    decide +kernel
  obtain ⟨g, hg, hrun⟩ := Grammar.exists_ok_of_any hrun
  obtain ⟨c, hc, hrun⟩ := Grammar.exists_ok_of_any hrun
  obtain ⟨r, hr, hrun⟩ := (Option.any_eq_true _ _).1 hrun
  obtain ⟨hends, hwidth, hlength⟩ := of_decide_eq_true hrun
  obtain ⟨t, n, ht, hexplained, -, -⟩ := hends.exists_explained
  obtain ⟨order, hcompiles⟩ := Grammar.exists_order_of_compile hc
  have hprogram := Regex.program_of_compile
    (hcompiles.compiled r (CompiledGrammar.mem_of_find? hr)).1
  obtain ⟨r', hr', hround⟩ := children_go_round hg hc "42" 512 t ht n [] _ hexplained _ _ _ rfl
  obtain rfl := Option.some.inj (hr.symm.trans hr')
  have hempty := Regex.neverEmpty_of_minLength hprogram ⟨1, hlength, Nat.one_pos⟩ n.text
  have hunique := Regex.unambiguous_of_width hprogram hwidth n.text
  exact ⟨g, c, t, n, _, r, hg, hc, ht, hexplained, rfl, hr, hround,
    (hround.divided hempty (.inr hunique)).1⟩

/-- Two of a rule that prefers a row of `x` to `xy`. -/
def grasping : String := "r := a\x7b2\x7d\na := \x7bx+|xy\x7d\n"

/-- The text `xxy` is `x` and `xy`, two rounds of a rule without empty matches. But `xx` is found in
it first and nothing behind it, so that there is one child, with a gap behind it. -/
theorem exists_rounds_with_gap_and_too_few : ∃ g c t n e r, Grammar.parse grasping = .ok g ∧
    g.compile = .ok c ∧ (Builder.mk c "xxy" 512).build = .ok t ∧
    (Builder.mk c "xxy" 512).Explained t n [] e ∧
    e.rule.description = .repetition "a" 2 (some 2) ∧ c.find? "a" = some r ∧
    (∀ s, r.matcher.NeverEmpty s) ∧ n.span = ⟨0, 3⟩ ∧
    n.children.map Tree.key = [("a", ⟨0, 2⟩)] ∧ n.children.length < 2 ∧
    ¬Adjoin n.span.start (n.children.map Tree.span) n.span.stop := by
  have hrun : (Grammar.parse grasping).toOption.any fun g : Grammar =>
      g.compile.toOption.any fun c : CompiledGrammar =>
        (c.find? "a").any fun r : CompiledRule =>
          decide ((Builder.mk c "xxy" 512).EndsWith 1
              ⟨⟨"r", .repetition "a" 2 (some 2)⟩, [some ⟨1, 3⟩]⟩ ⟨0, 3⟩ [("a", ⟨0, 2⟩)] ∧
            r.matcher.pattern.minLength = some 1) := by decide +kernel
  obtain ⟨g, hg, hrun⟩ := Grammar.exists_ok_of_any hrun
  obtain ⟨c, hc, hrun⟩ := Grammar.exists_ok_of_any hrun
  obtain ⟨r, hr, hrun⟩ := (Option.any_eq_true _ _).1 hrun
  obtain ⟨hends, hlength⟩ := of_decide_eq_true hrun
  obtain ⟨t, n, ht, hexplained, hspan, hkeys⟩ := hends.exists_explained
  obtain ⟨order, hcompiles⟩ := Grammar.exists_order_of_compile hc
  have hprogram := Regex.program_of_compile
    (hcompiles.compiled r (CompiledGrammar.mem_of_find? hr)).1
  obtain ⟨child, hchildren, hkey⟩ := List.map_eq_singleton_iff.1 hkeys
  have hshort : child.span = ⟨0, 2⟩ := congrArg Prod.snd hkey
  refine ⟨g, c, t, n, _, r, hg, hc, ht, hexplained, rfl, hr,
    Regex.neverEmpty_of_minLength hprogram ⟨1, hlength, Nat.one_pos⟩, hspan, hkeys, ?_, ?_⟩
  · rw [hchildren]
    exact Nat.lt_succ_self 1
  · rw [hchildren, hspan, List.map_singleton, hshort]
    simp [Adjoin]

end Builder

end PatternGrammar
