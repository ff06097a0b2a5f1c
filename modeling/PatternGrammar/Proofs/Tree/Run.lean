import Mathlib.Data.Nat.Init
import PatternGrammar.Tree.Builder

/-!
# The work of a builder, turn by turn

A turn runs the search on top of the stack (`Builder.advance`). The states that the work goes
through, `Builder.stateAfter`, do not depend on the deepest level that is allowed: the limit only
tells how many of them are seen.

Main results:

* `Builder.exists_turn_of_mem`: in work that ends, each search that waits gets its turn.
* `Builder.build_eq_ok_iff`: a tree is built iff some state has no search that waits and no state
  before it has a search on top of the stack that is too deep.
* `Builder.build_eq_error_iff`: an error tells of the first search on top of the stack that is too
  deep.
* `Builder.stateAfter_withLimit`: the states do not depend on the limit.
-/

namespace PatternGrammar.Builder

open PatternGrammar.Text (Span)

variable (b : Builder)

/-- Runs the search on top of the stack, whatever its depth. -/
def advance : Arena × List Search → Arena × List Search
  | (arena, []) => (arena, [])
  | (arena, s :: rest) => ((b.step arena s).1, (b.step arena s).2 ++ rest)

/-- The arena and the searches that wait after a number of turns. -/
def stateAfter : ℕ → Arena × List Search
  | 0 => b.initial
  | turns + 1 => b.advance (stateAfter turns)

/-- What holds at first and is kept by each turn holds always. -/
theorem stateAfter_induction {P : Arena → List Search → Prop}
    (hinitial : P b.initial.1 b.initial.2)
    (hstep : ∀ arena s rest, P arena (s :: rest) →
      P (b.step arena s).1 ((b.step arena s).2 ++ rest)) (turns : ℕ) :
    P (b.stateAfter turns).1 (b.stateAfter turns).2 := by
  induction turns with
  | zero => exact hinitial
  | succ turns ih =>
    rw [stateAfter]
    rcases hstate : b.stateAfter turns with ⟨arena, _ | ⟨s, rest⟩⟩
    · rw [hstate] at ih
      exact ih
    · rw [hstate] at ih
      exact hstep arena s rest ih

theorem stateAfter_succ {b : Builder} {turns : ℕ} {s : Search} {rest : List Search}
    (h : (b.stateAfter turns).2 = s :: rest) :
    b.stateAfter (turns + 1) = ((b.step (b.stateAfter turns).1 s).1,
      (b.step (b.stateAfter turns).1 s).2 ++ rest) := by
  have hstate : b.stateAfter turns = ((b.stateAfter turns).1, s :: rest) := by rw [← h]
  rw [stateAfter, hstate, advance]

/-- A state in which no search waits stays as it is. -/
theorem stateAfter_of_end {b : Builder} {turns : ℕ} (h : (b.stateAfter turns).2 = []) {n : ℕ}
    (hn : turns ≤ n) : b.stateAfter n = b.stateAfter turns := by
  induction n, hn using Nat.le_induction with
  | base => rfl
  | succ n _ ih =>
    have hstate : b.stateAfter turns = ((b.stateAfter turns).1, []) := by rw [← h]
    rw [stateAfter, ih, hstate, advance]

/-- In work that ends, each search that waits gets its turn. -/
theorem exists_turn_of_mem {b : Builder} (hend : ∃ last, (b.stateAfter last).2 = []) {turns : ℕ}
    {s : Search} (h : s ∈ (b.stateAfter turns).2) :
    ∃ n rest, turns ≤ n ∧ (b.stateAfter n).2 = s :: rest := by
  obtain ⟨last, hlast⟩ := hend
  obtain ⟨front, rest, hstack⟩ := List.append_of_mem h
  -- until its turn comes, the search stays where it is, above the same searches
  have hwait : ∀ k, (∃ n, turns ≤ n ∧ (b.stateAfter n).2 = s :: rest) ∨
      ∃ front, (b.stateAfter (turns + k)).2 = front ++ s :: rest := by
    intro k
    induction k with
    | zero => exact .inr ⟨front, hstack⟩
    | succ k ih =>
      rcases ih with hturn | ⟨front, hfront⟩
      · exact .inl hturn
      · cases front with
        | nil => exact .inl ⟨turns + k, Nat.le_add_right _ _, hfront⟩
        | cons top front =>
          refine .inr ⟨(b.step (b.stateAfter (turns + k)).1 top).2 ++ front, ?_⟩
          rw [← Nat.add_assoc, stateAfter_succ hfront, List.append_assoc]
          rfl
  rcases hwait last with ⟨n, hle, hturn⟩ | ⟨front, hfront⟩
  · exact ⟨n, rest, hle, hturn⟩
  · rw [stateAfter_of_end hlast (Nat.le_add_left _ _), hlast] at hfront
    simp at hfront

/-! ## Runs with a limit -/

/-- The search on top of the stack, if any, is allowed after a number of turns. -/
def Fits (turns : ℕ) : Prop :=
  ∀ s ∈ (b.stateAfter turns).2.head?, s.depth ≤ b.maxDepth

instance (turns : ℕ) : Decidable (b.Fits turns) :=
  inferInstanceAs (Decidable (∀ s ∈ (b.stateAfter turns).2.head?, s.depth ≤ b.maxDepth))

variable {b}

theorem exists_of_not_fits {turns : ℕ} (h : ¬b.Fits turns) :
    ∃ s ∈ (b.stateAfter turns).2.head?, b.maxDepth < s.depth := by
  unfold Fits at h
  cases hs : (b.stateAfter turns).2.head? with
  | none => simp [hs] at h
  | some s =>
    refine ⟨s, rfl, Nat.not_le.1 fun hle => h ?_⟩
    rw [hs]
    rintro s ⟨⟩
    exact hle

/-- As long as the searches are allowed, a run from a later state is the run from the start. -/
theorem run_stateAfter {turns : ℕ} (h : ∀ n < turns, b.Fits n) :
    b.run (b.stateAfter turns).1 (b.stateAfter turns).2 = b.run b.initial.1 b.initial.2 := by
  induction turns with
  | zero => rfl
  | succ turns ih =>
    rw [← ih fun n hn => h n (Nat.lt_succ_of_lt hn), stateAfter]
    have hfits := h turns (Nat.lt_succ_self turns)
    rcases hstate : b.stateAfter turns with ⟨arena, _ | ⟨s, rest⟩⟩
    · rfl
    · have hdepth : ¬b.maxDepth < s.depth := Nat.not_lt.2 (hfits s (by rw [hstate]; rfl))
      rw [advance, run.eq_def b arena (s :: rest)]
      simp only [if_neg hdepth]

/-- A run ends in a state in which no search waits, or at a search that is not allowed. -/
theorem exists_end_of_run {arena : Arena} {stack : List Search} {turns : ℕ}
    (hstate : b.stateAfter turns = (arena, stack)) (hfits : ∀ n < turns, b.Fits n) :
    ∃ n, (∀ m < n, b.Fits m) ∧ ((b.stateAfter n).2 = [] ∨ ¬b.Fits n) := by
  induction arena, stack using run.induct b generalizing turns with
  | case1 arena => exact ⟨turns, hfits, .inl (by rw [hstate])⟩
  | case2 arena s rest hdeep =>
    refine ⟨turns, hfits, .inr fun hfit => ?_⟩
    have := hfit s (by rw [hstate]; rfl)
    omega
  | case3 arena s rest hdeep ih =>
    refine @ih (turns + 1) (by rw [stateAfter, hstate, advance]) fun n hn => ?_
    rcases Nat.lt_succ_iff_lt_or_eq.1 hn with hn | rfl
    · exact hfits n hn
    · unfold Fits
      rw [hstate]
      rintro s ⟨⟩
      exact Nat.not_lt.1 hdeep

/-- What is built, by the state in which the run ends. -/
theorem build_eq_of_fits {turns : ℕ} (hfits : ∀ n < turns, b.Fits n) :
    ((b.stateAfter turns).2 = [] →
      b.build = .ok ((b.stateAfter turns).1.toTree rootRule b.input)) ∧
    ∀ s ∈ (b.stateAfter turns).2.head?, b.maxDepth < s.depth →
      b.build = .error ⟨b.maxDepth, s.rule.name, s.span⟩ := by
  have hrun := run_stateAfter hfits
  constructor
  · intro hstack
    rw [hstack, run] at hrun
    rw [build, ← hrun]
    rfl
  · intro s hs hdeep
    obtain ⟨rest, hrest⟩ := List.head?_eq_some_iff.1 hs
    rw [hrest, run, if_pos hdeep] at hrun
    rw [build, ← hrun]
    rfl

/-- A tree is built iff the work comes to an end without a search that is too deep; it is put
together from the arena at the end. -/
theorem build_eq_ok_iff {t : Tree} :
    b.build = .ok t ↔ ∃ turns, (∀ n < turns, b.Fits n) ∧ (b.stateAfter turns).2 = [] ∧
      t = (b.stateAfter turns).1.toTree rootRule b.input := by
  constructor
  · intro h
    obtain ⟨turns, hfits, hend⟩ := @exists_end_of_run b _ _ 0 rfl (by simp)
    rcases hend with hend | hend
    · rw [(build_eq_of_fits hfits).1 hend] at h
      exact ⟨turns, hfits, hend, (Except.ok.inj h).symm⟩
    · obtain ⟨s, hs, hdeep⟩ := exists_of_not_fits hend
      rw [(build_eq_of_fits hfits).2 s hs hdeep] at h
      simp at h
  · rintro ⟨turns, hfits, hend, rfl⟩
    exact (build_eq_of_fits hfits).1 hend

/-- Building fails iff the work comes to a search that is too deep, which the error tells of. -/
theorem build_eq_error_iff {e : DepthExceeded} :
    b.build = .error e ↔ ∃ turns, (∀ n < turns, b.Fits n) ∧
      ∃ s ∈ (b.stateAfter turns).2.head?, b.maxDepth < s.depth ∧
        e = ⟨b.maxDepth, s.rule.name, s.span⟩ := by
  constructor
  · intro h
    obtain ⟨turns, hfits, hend⟩ := @exists_end_of_run b _ _ 0 rfl (by simp)
    rcases hend with hend | hend
    · rw [(build_eq_of_fits hfits).1 hend] at h
      simp at h
    · obtain ⟨s, hs, hdeep⟩ := exists_of_not_fits hend
      rw [(build_eq_of_fits hfits).2 s hs hdeep] at h
      exact ⟨turns, hfits, s, hs, hdeep, (Except.error.inj h).symm⟩
  · rintro ⟨turns, hfits, s, hs, hdeep, rfl⟩
    exact (build_eq_of_fits hfits).2 s hs hdeep

/-- A tree is built where no search on top of the stack is ever too deep. -/
theorem exists_build_eq_ok (h : ∀ turns, b.Fits turns) : ∃ t, b.build = .ok t := by
  cases hbuild : b.build with
  | ok t => exact ⟨t, rfl⟩
  | error e =>
    obtain ⟨turns, -, s, hs, hdeep, -⟩ := build_eq_error_iff.1 hbuild
    have := h turns s hs
    omega

/-! ## The limit -/

variable (b)

/-- The builder with another deepest level. -/
def withLimit (limit : ℕ) : Builder := { b with maxDepth := limit }

theorem addMatches_withLimit (limit : ℕ) (s : Search) (arena : Arena) (spans : List Span) :
    (b.withLimit limit).addMatches s arena spans = b.addMatches s arena spans := by
  induction spans generalizing arena with
  | nil => rfl
  | cons span spans ih =>
    have hexplain : ∀ arena node, (b.withLimit limit).explain arena node s.rule span s.depth =
        b.explain arena node s.rule span s.depth := fun _ _ => rfl
    rw [addMatches, addMatches, hexplain]
    dsimp only
    rw [ih]

theorem stateAfter_withLimit (limit turns : ℕ) :
    (b.withLimit limit).stateAfter turns = b.stateAfter turns := by
  induction turns with
  | zero => rfl
  | succ turns ih =>
    rw [stateAfter, stateAfter, ih]
    rcases b.stateAfter turns with ⟨arena, _ | ⟨s, rest⟩⟩
    · rfl
    · have hstep : (b.withLimit limit).step arena s = b.step arena s :=
        b.addMatches_withLimit limit s arena _
      rw [advance, advance, hstep]

end PatternGrammar.Builder
