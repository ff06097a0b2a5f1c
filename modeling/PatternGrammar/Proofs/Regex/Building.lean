import Mathlib.Data.List.Forall2
import PatternGrammar.Proofs.Regex.Matching
import PatternGrammar.Proofs.Unicode.CharSet

/-!
# Patterns in normal form

Sequences, choices and repetitions are built in a normal form: literals are joined, characters and
sets make up one set, common factors are taken out, and what has no width is repeated at most once.
None of this changes what is matched.

`Pattern.Spans` is what is left of a match when its groups are forgotten: the two places between
which it lies.

Main results:

* `Pattern.matches_join`, `Pattern.matches_choose`: sequences and choices match, and record, what
  their parts do.
* `Pattern.spans_iff`: the places of a match do not depend on what was recorded before.
* `Pattern.spans_times`: a repetition matches where its body matches a number of times.
-/

namespace PatternGrammar.Regex

namespace Pattern

variable {text : Array Char} {a b : Cursor}

/-! ## Sequences -/

/-- The patterns match one after another. -/
def MatchesRow (text : Array Char) : List Pattern → Cursor → Cursor → Prop
  | [], a, b => a = b
  | p :: ps, a, b => ∃ m, p.Matches text a m ∧ MatchesRow text ps m b

theorem matchesRow_singleton {p : Pattern} : MatchesRow text [p] a b ↔ p.Matches text a b := by
  simp [MatchesRow]

theorem matchesRow_append {ps qs : List Pattern} :
    MatchesRow text (ps ++ qs) a b ↔ ∃ m, MatchesRow text ps a m ∧ MatchesRow text qs m b := by
  induction ps generalizing a with
  | nil => simp [MatchesRow]
  | cons p ps ih =>
    simp only [List.cons_append, MatchesRow, ih]
    constructor
    · rintro ⟨m, hm, n, hn, hb⟩
      exact ⟨n, ⟨m, hm, hn⟩, hb⟩
    · rintro ⟨n, ⟨m, hm, hn⟩, hb⟩
      exact ⟨m, hm, n, hn, hb⟩

theorem matches_ofFactors {ps : List Pattern} :
    (ofFactors ps).Matches text a b ↔ MatchesRow text ps a b := by
  induction ps generalizing a with
  | nil => exact Iff.rfl
  | cons p ps ih =>
    cases ps with
    | nil => exact matchesRow_singleton.symm
    | cons q ps =>
      show (∃ m, p.Matches text a m ∧ (ofFactors (q :: ps)).Matches text m b) ↔ _
      simp only [ih]
      exact Iff.rfl

theorem matchesRow_factors {p : Pattern} :
    MatchesRow text p.factors a b ↔ p.Matches text a b := by
  induction p generalizing a b with
  | empty => exact Iff.rfl
  | seq first rest ihf ihr =>
    rw [factors, matchesRow_append]
    simp only [ihf, ihr]
    exact Iff.rfl
  | _ => exact matchesRow_singleton

theorem matches_literal_append {cs ds : List Char} :
    (literal (cs ++ ds)).Matches text a b ↔
      ∃ m, (literal cs).Matches text a m ∧ (literal ds).Matches text m b := by
  simp only [Matches, Cursor.skip]
  constructor
  · rintro ⟨⟨back, hback⟩, rfl⟩
    rw [List.append_assoc] at hback
    refine ⟨_, ⟨⟨_, hback⟩, rfl⟩, ⟨back, ?_⟩, ?_⟩
    · rw [← List.drop_drop, ← hback, List.drop_left' rfl]
    · simp [Nat.add_assoc]
  · rintro ⟨m, ⟨⟨back, hback⟩, rfl⟩, ⟨tail, htail⟩, rfl⟩
    refine ⟨⟨tail, ?_⟩, by simp [Nat.add_assoc]⟩
    rw [← List.drop_drop, ← hback, List.drop_left' rfl] at htail
    rw [← hback, ← htail, List.append_assoc]

theorem matches_prepend {p q : Pattern} :
    (prepend p q).Matches text a b ↔ ∃ m, p.Matches text a m ∧ q.Matches text m b := by
  unfold prepend
  split
  · simp [Matches]
  · exact matches_literal_append
  · rename_i cs ds rest
    show (∃ m, (literal (cs ++ ds)).Matches text a m ∧ rest.Matches text m b) ↔ _
    simp only [matches_literal_append]
    constructor
    · rintro ⟨m, ⟨n, hn, hm⟩, hb⟩
      exact ⟨n, hn, m, hm, hb⟩
    · rintro ⟨n, hn, m, hm, hb⟩
      exact ⟨m, ⟨n, hn, hm⟩, hb⟩
  · exact Iff.rfl

/-- A sequence matches what its two parts match one after the other. -/
theorem matches_join {p q : Pattern} :
    (join p q).Matches text a b ↔ ∃ m, p.Matches text a m ∧ q.Matches text m b := by
  induction p generalizing a b q with
  | empty => simp [join, Matches]
  | seq first rest ihf ihr =>
    rw [join, matches_prepend]
    simp only [ihr]
    constructor
    · rintro ⟨m, hm, n, hn, hb⟩
      exact ⟨n, ⟨m, hm, hn⟩, hb⟩
    · rintro ⟨n, ⟨m, hm, hn⟩, hb⟩
      exact ⟨m, hm, n, hn, hb⟩
  | _ => exact matches_prepend

/-! ## Choices -/

/-- One of the patterns matches. -/
def MatchesAny (text : Array Char) (ps : List Pattern) (a b : Cursor) : Prop :=
  ∃ p ∈ ps, p.Matches text a b

theorem matchesAny_singleton {p : Pattern} : MatchesAny text [p] a b ↔ p.Matches text a b := by
  simp [MatchesAny]

theorem matchesAny_cons {p : Pattern} {ps : List Pattern} :
    MatchesAny text (p :: ps) a b ↔ p.Matches text a b ∨ MatchesAny text ps a b := by
  simp [MatchesAny]

theorem matchesAny_append {ps qs : List Pattern} :
    MatchesAny text (ps ++ qs) a b ↔ MatchesAny text ps a b ∨ MatchesAny text qs a b := by
  simp [MatchesAny, or_and_right, exists_or]

theorem not_matches_fail : ¬fail.Matches text a b := by
  rintro ⟨c, -, hc, -⟩
  simp at hc

theorem matches_ofAlternatives {ps : List Pattern} :
    (ofAlternatives ps).Matches text a b ↔ MatchesAny text ps a b := by
  induction ps with
  | nil => simp [ofAlternatives, MatchesAny, not_matches_fail]
  | cons p ps ih =>
    cases ps with
    | nil => exact matchesAny_singleton.symm
    | cons q ps =>
      rw [matchesAny_cons, ← ih]
      exact Iff.rfl

theorem matchesAny_alternatives {p : Pattern} :
    MatchesAny text p.alternatives a b ↔ p.Matches text a b := by
  induction p with
  | choice first rest ihf ihr =>
    rw [alternatives, matchesAny_append, ihf, ihr]
    exact Iff.rfl
  | _ => exact matchesAny_singleton

theorem matchesAny_flatMap_alternatives {ps : List Pattern} :
    MatchesAny text (ps.flatMap alternatives) a b ↔ MatchesAny text ps a b := by
  induction ps with
  | nil => rfl
  | cons p ps ih =>
    rw [List.flatMap_cons, matchesAny_append, matchesAny_alternatives, ih, matchesAny_cons]

/-! ## Choices of characters and sets -/

theorem matches_char {c : Char} :
    (literal [c]).Matches text a b ↔ text[a.place]? = some c ∧ b = a.skip 1 := by
  rw [Matches, ← Array.getElem?_toList]
  cases hdrop : text.toList.drop a.place with
  | nil => simp [List.getElem?_eq_none (List.drop_eq_nil_iff.1 hdrop)]
  | cons d ds =>
    have hd : text.toList[a.place]? = some d := by
      rw [← List.head?_drop, hdrop, List.head?_cons]
    simp [hd, eq_comm]

/-- A set is matched by its characters. -/
theorem matches_ofSet {set : CharSet} {asBytes : Bool} :
    (ofSet set asBytes).Matches text a b ↔
      ∃ c, text[a.place]? = some c ∧ set.contains c ∧ b = a.skip 1 := by
  unfold ofSet
  split
  · rename_i hempty
    simp [not_matches_fail, CharSet.contains_of_ranges_isEmpty hempty]
  · split
    · rename_i c hsingle
      rw [matches_char]
      constructor
      · rintro ⟨hc, hb⟩
        exact ⟨c, hc, (CharSet.contains_of_single? hsingle).2 rfl, hb⟩
      · rintro ⟨d, hd, hmem, hb⟩
        obtain rfl := (CharSet.contains_of_single? hsingle).1 hmem
        exact ⟨hd, hb⟩
    · exact Iff.rfl

theorem forall₂_of_mapM {α β : Type} {f : α → Option β} {as : List α} {bs : List β}
    (h : as.mapM f = some bs) : List.Forall₂ (fun a b => f a = some b) as bs := by
  induction as generalizing bs with
  | nil =>
    obtain rfl : bs = [] := by simpa using h.symm
    exact .nil
  | cons a as ih =>
    simp only [List.mapM_cons, bind, Option.bind_eq_some_iff, pure, Option.some.injEq] at h
    obtain ⟨b, hb, bs, hbs, rfl⟩ := h
    exact .cons hb (ih hbs)

theorem matches_of_letter? {p : Pattern} {c : Char} (h : p.letter? = some c) :
    p.Matches text a b ↔ text[a.place]? = some c ∧ b = a.skip 1 := by
  unfold letter? at h
  split at h
  · obtain rfl := Option.some.inj h
    exact matches_char
  · simp at h

theorem matches_of_set? {p : Pattern} {set : CharSet} (h : p.set? = some set) :
    p.Matches text a b ↔ ∃ c, text[a.place]? = some c ∧ set.contains c ∧ b = a.skip 1 := by
  unfold set? at h
  split at h
  · obtain rfl := Option.some.inj h
    exact Iff.rfl
  · simp at h

theorem matchesAny_letters {ps : List Pattern} {cs : List Char}
    (h : List.Forall₂ (fun p c => letter? p = some c) ps cs) :
    MatchesAny text ps a b ↔ ∃ c, text[a.place]? = some c ∧ c ∈ cs ∧ b = a.skip 1 := by
  induction h with
  | nil => simp [MatchesAny]
  | cons hp _ ih =>
    rw [matchesAny_cons, ih, matches_of_letter? hp]
    simp only [List.mem_cons]
    grind

theorem matchesAny_sets {ps : List Pattern} {sets : List CharSet}
    (h : List.Forall₂ (fun p set => set? p = some set) ps sets) :
    MatchesAny text ps a b ↔
      ∃ c, text[a.place]? = some c ∧ (∃ s ∈ sets, s.contains c) ∧ b = a.skip 1 := by
  induction h with
  | nil => simp [MatchesAny]
  | cons hp _ ih =>
    rw [matchesAny_cons, ih, matches_of_set? hp]
    simp only [List.mem_cons]
    grind

theorem matches_of_chooseSet? {ps : List Pattern} {p : Pattern} (h : chooseSet? ps = some p) :
    p.Matches text a b ↔ MatchesAny text ps a b := by
  unfold chooseSet? at h
  split at h
  · rename_i cs hcs
    obtain rfl := Option.some.inj h
    rw [matches_ofSet, matchesAny_letters (forall₂_of_mapM hcs)]
    simp only [CharSet.contains_ofRanges_chars]
  · obtain ⟨sets, hsets, rfl⟩ := Option.map_eq_some_iff.1 h
    rw [matches_ofSet, matchesAny_sets (forall₂_of_mapM hsets)]
    simp only [CharSet.contains_foldl_union, CharSet.contains_empty, Bool.false_eq_true, false_or]

/-! ## Common factors -/

theorem commonStart_spec {α : Type} [DecidableEq α] (as bs : List α) :
    commonStart as bs <+: as ∧ commonStart as bs <+: bs := by
  induction as generalizing bs with
  | nil => simp [commonStart]
  | cons a as ih =>
    cases bs with
    | nil => simp [commonStart]
    | cons b bs =>
      rw [commonStart]
      split
      · rename_i heq
        subst heq
        exact ⟨List.cons_prefix_cons.2 ⟨rfl, (ih bs).1⟩, List.cons_prefix_cons.2 ⟨rfl, (ih bs).2⟩⟩
      · simp

theorem foldl_commonStart_spec {α : Type} [DecidableEq α] (rows : List (List α))
    (row : List α) :
    rows.foldl commonStart row <+: row ∧ ∀ r ∈ rows, rows.foldl commonStart row <+: r := by
  induction rows generalizing row with
  | nil => simp
  | cons r rows ih =>
    obtain ⟨hstart, hrest⟩ := ih (commonStart row r)
    refine ⟨hstart.trans (commonStart_spec row r).1, fun s hs => ?_⟩
    rcases List.mem_cons.1 hs with rfl | hs
    · exact hstart.trans (commonStart_spec row s).2
    · exact hrest s hs

theorem matches_chooseFlat {ps : List Pattern} :
    (chooseFlat ps).Matches text a b ↔ MatchesAny text ps a b := by
  rw [← matchesAny_flatMap_alternatives]
  unfold chooseFlat
  split
  · rename_i hnil
    simp [hnil, MatchesAny, not_matches_fail]
  · rename_i p hp
    rw [hp]
    exact matchesAny_singleton.symm
  · cases hset : chooseSet? (ps.flatMap alternatives) with
    | none => exact matches_ofAlternatives
    | some p => exact matches_of_chooseSet? hset

/-- Branches that begin alike match what their common start matches and then what follows it in one
of them. -/
theorem matches_of_factorOut? {ps : List Pattern} {p : Pattern} (h : factorOut? ps = some p) :
    p.Matches text a b ↔ MatchesAny text ps a b := by
  unfold factorOut? at h
  split at h
  · simp at h
  · simp at h
  · rename_i row rows _ hrows
    split at h
    · split at h
      · simp at h
      · obtain rfl := Option.some.inj h
        obtain ⟨hfirst, hrest⟩ := foldl_commonStart_spec rows row
        generalize hcommon : rows.foldl commonStart row = common at hfirst hrest
        have hstart : ∀ q ∈ ps, common <+: q.factors := by
          intro q hq
          have hmem : q.factors ∈ row :: rows := hrows ▸ List.mem_map_of_mem hq
          rcases List.mem_cons.1 hmem with heq | hmem
          · exact heq ▸ hfirst
          · exact hrest _ hmem
        have hsplit : ∀ q ∈ ps, (q.Matches text a b ↔ ∃ m, MatchesRow text common a m ∧
            (ofFactors (q.factors.drop common.length)).Matches text m b) := by
          intro q hq
          rw [← matchesRow_factors, ← List.prefix_iff_eq_append.1 (hstart q hq), matchesRow_append]
          simp only [List.drop_left, matches_ofFactors]
        rw [matches_join, ← hrows, List.map_map]
        simp only [matches_chooseFlat, matches_ofFactors]
        constructor
        · rintro ⟨m, hm, t, ht, hb⟩
          obtain ⟨q, hq, rfl⟩ := List.mem_map.1 ht
          exact ⟨q, hq, (hsplit q hq).2 ⟨m, hm, hb⟩⟩
        · rintro ⟨q, hq, hb⟩
          obtain ⟨m, hm, hb⟩ := (hsplit q hq).1 hb
          exact ⟨m, hm, _, List.mem_map_of_mem hq, hb⟩
    · simp at h

/-- A choice matches what one of its branches matches. -/
theorem matches_choose {ps : List Pattern} :
    (choose ps).Matches text a b ↔ MatchesAny text ps a b := by
  unfold choose
  split
  · simp [MatchesAny, not_matches_fail]
  · exact matchesAny_singleton.symm
  · rw [← matchesAny_flatMap_alternatives]
    dsimp only
    cases hset : chooseSet? (ps.flatMap alternatives) with
    | some p => exact matches_of_chooseSet? hset
    | none =>
      cases hfactor : factorOut? (ps.flatMap alternatives) with
      | some p => exact matches_of_factorOut? hfactor
      | none => exact matches_ofAlternatives

/-! ## Places of a match -/

/-- The pattern can match between two places. -/
def Spans (text : Array Char) : Pattern → ℕ → ℕ → Prop
  | empty, i, j => i = j
  | literal cs, i, j => cs <+: text.toList.drop i ∧ j = i + cs.length
  | chars set _, i, j => ∃ c, text[i]? = some c ∧ set.contains c ∧ j = i + 1
  | look l, i, j => l.holds text i ∧ i = j
  | seq first rest, i, j => ∃ m, first.Spans text i m ∧ rest.Spans text m j
  | choice first rest, i, j => first.Spans text i j ∨ rest.Spans text i j
  | repeated body min max _, i, j => ∃ k, InBounds min max k ∧ Times (body.Spans text) k i j
  | capture _ body, i, j => body.Spans text i j

/-- The places of matches of a relation between cursors are related, whatever was recorded. -/
theorem times_spans {R : Cursor → Cursor → Prop} {Q : ℕ → ℕ → Prop}
    (h : ∀ i j s, Q i j ↔ ∃ s', R ⟨i, s⟩ ⟨j, s'⟩) {k i j : ℕ} {s : List (ℕ × ℕ)} :
    Times Q k i j ↔ ∃ s', Times R k ⟨i, s⟩ ⟨j, s'⟩ := by
  induction k generalizing i s with
  | zero => simp [Times]
  | succ k ih =>
    constructor
    · rintro ⟨m, hm, hj⟩
      obtain ⟨s', hs'⟩ := (h i m s).1 hm
      obtain ⟨s'', hs''⟩ := ih.1 hj
      exact ⟨s'', ⟨m, s'⟩, hs', hs''⟩
    · rintro ⟨s'', ⟨m, s'⟩, hs', hs''⟩
      exact ⟨m, (h i m s).2 ⟨s', hs'⟩, ih.2 ⟨s'', hs''⟩⟩

/-- The places of a match do not depend on what was recorded before. -/
theorem spans_iff {p : Pattern} {i j : ℕ} (s : List (ℕ × ℕ)) :
    p.Spans text i j ↔ ∃ s', p.Matches text ⟨i, s⟩ ⟨j, s'⟩ := by
  induction p generalizing i j s with
  | empty => simp [Spans, Matches]
  | literal cs => simp [Spans, Matches, Cursor.skip]
  | chars set _ => simp [Spans, Matches, Cursor.skip]
  | look l => simp [Spans, Matches]
  | seq first rest ihf ihr =>
    constructor
    · rintro ⟨m, hm, hj⟩
      obtain ⟨s', hs'⟩ := (ihf s).1 hm
      obtain ⟨s'', hs''⟩ := (ihr s').1 hj
      exact ⟨s'', ⟨m, s'⟩, hs', hs''⟩
    · rintro ⟨s'', ⟨m, s'⟩, hs', hs''⟩
      exact ⟨m, (ihf s).2 ⟨s', hs'⟩, (ihr s').2 ⟨s'', hs''⟩⟩
  | choice first rest ihf ihr => simp only [Spans, Matches, ihf s, ihr s, exists_or]
  | «repeated» body min max greedy ih =>
    simp only [Spans, Matches]
    rw [exists_comm]
    simp only [exists_and_left, times_spans (fun i j s => ih s) (s := s)]
  | capture index body ih =>
    rw [Spans, ih ((2 * index, i) :: s)]
    constructor
    · rintro ⟨s', hs'⟩
      exact ⟨_, ⟨j, s'⟩, hs', rfl⟩
    · rintro ⟨s', ⟨m, s''⟩, hm, heq⟩
      obtain ⟨rfl, -⟩ := Cursor.mk.inj heq
      exact ⟨s'', hm⟩

theorem spans_join {p q : Pattern} {i j : ℕ} :
    (join p q).Spans text i j ↔ ∃ m, p.Spans text i m ∧ q.Spans text m j := by
  show _ ↔ (seq p q).Spans text i j
  simp only [spans_iff [], matches_join]
  exact Iff.rfl

theorem spans_choose {ps : List Pattern} {i j : ℕ} :
    (choose ps).Spans text i j ↔ ∃ p ∈ ps, p.Spans text i j := by
  simp only [spans_iff [], matches_choose, MatchesAny]
  constructor
  · rintro ⟨s', p, hp, hs'⟩
    exact ⟨p, hp, s', hs'⟩
  · rintro ⟨p, hp, s', hs'⟩
    exact ⟨s', p, hp, hs'⟩

/-! ## Repetitions -/

theorem eq_of_isZeroWidth {p : Pattern} (h : p.isZeroWidth) {i j : ℕ} (hij : p.Spans text i j) :
    i = j := by
  induction p generalizing i j with
  | empty => exact hij
  | look l => exact hij.2
  | seq first rest ihf ihr =>
    rw [isZeroWidth, Bool.and_eq_true] at h
    obtain ⟨m, hm, hj⟩ := hij
    exact (ihf h.1 hm).trans (ihr h.2 hj)
  | choice first rest ihf ihr =>
    rw [isZeroWidth, Bool.and_eq_true] at h
    rcases hij with hij | hij
    · exact ihf h.1 hij
    · exact ihr h.2 hij
  | «repeated» body min max greedy ih =>
    rw [isZeroWidth, Bool.and_eq_true] at h
    obtain ⟨k, -, hk⟩ := hij
    exact Times.trans_of (fun _ => rfl) (fun _ _ _ hab hbc => (ih h.2 hab).trans hbc) hk
  | capture index body ih => exact ih h hij
  | _ => simp [isZeroWidth] at h

theorem times_self {R : ℕ → ℕ → Prop} {i : ℕ} (h : R i i) (k : ℕ) : Times R k i i := by
  induction k with
  | zero => rfl
  | succ k ih => exact ⟨i, h, ih⟩

/-- A relation that only relates places to themselves: one step does what any number of them does. -/
theorem times_zeroWidth {R : ℕ → ℕ → Prop} (h : ∀ i j, R i j → i = j) {low : ℕ} {high : Option ℕ}
    {i j : ℕ} :
    (∃ k, InBounds (min low 1) (some ((high.map (min · 1)).getD 1)) k ∧ Times R k i j) ↔
      ∃ k, InBounds low high k ∧ Times R k i j := by
  have hstep : ∀ {k}, Times R (k + 1) i j → R i i ∧ i = j := by
    rintro k ⟨m, hm, hj⟩
    obtain rfl := h i m hm
    exact ⟨hm, Times.trans_of (fun _ => rfl) (fun _ _ _ hab hbc => (h _ _ hab).trans hbc) hj⟩
  constructor
  · rintro ⟨k, ⟨hlow, hhigh⟩, hk⟩
    have hhigh := hhigh _ rfl
    cases k with
    | zero => exact ⟨0, ⟨by omega, fun _ _ => Nat.zero_le _⟩, hk⟩
    | succ k =>
      obtain ⟨hii, rfl⟩ := hstep hk
      refine ⟨max 1 low, ⟨Nat.le_max_right _ _, ?_⟩, times_self hii _⟩
      rintro m rfl
      simp only [Option.map_some, Option.getD_some] at hhigh
      omega
  · rintro ⟨k, ⟨hlow, hhigh⟩, hk⟩
    cases k with
    | zero => exact ⟨0, ⟨by omega, fun _ _ => Nat.zero_le _⟩, hk⟩
    | succ k =>
      obtain ⟨hii, rfl⟩ := hstep hk
      refine ⟨1, ⟨Nat.min_le_right _ _, ?_⟩, times_self hii 1⟩
      rintro _ ⟨⟩
      cases high with
      | none => exact Nat.le_max_right _ _
      | some high =>
        have := hhigh high rfl
        simp only [Option.map_some, Option.getD_some]
        omega

/-- A repetition whose bounds say that there is none, or just one, is no repetition. -/
theorem spans_repeated_or_plain {p : Pattern} {min : ℕ} {max : Option ℕ} {greedy : Bool} {i j : ℕ} :
    (if min == 0 && max == some 0 then empty
      else if min == 1 && max == some 1 then p
      else repeated p min max greedy).Spans text i j ↔
      ∃ k, InBounds min max k ∧ Times (p.Spans text) k i j := by
  split
  · rename_i hnone
    simp only [Bool.and_eq_true, beq_iff_eq] at hnone
    obtain ⟨rfl, rfl⟩ := hnone
    constructor
    · intro h
      exact ⟨0, ⟨Nat.le_refl _, by simp⟩, h⟩
    · rintro ⟨k, ⟨-, hhigh⟩, hk⟩
      obtain rfl : k = 0 := by simpa using hhigh 0 rfl
      exact hk
  · split
    · rename_i hone
      simp only [Bool.and_eq_true, beq_iff_eq] at hone
      obtain ⟨rfl, rfl⟩ := hone
      constructor
      · intro h
        exact ⟨1, ⟨Nat.le_refl _, by simp⟩, j, h, rfl⟩
      · rintro ⟨k, ⟨hlow, hhigh⟩, hk⟩
        obtain rfl : k = 1 := Nat.le_antisymm (by simpa using hhigh 1 rfl) hlow
        obtain ⟨m, hm, rfl⟩ := hk
        exact hm
    · exact Iff.rfl

/-- A repetition matches where its body matches a number of times within the bounds, one match
after another. -/
theorem spans_times {p : Pattern} {min : ℕ} {max : Option ℕ} {greedy : Bool} {i j : ℕ} :
    (p.times min max greedy).Spans text i j ↔
      ∃ k, InBounds min max k ∧ Times (p.Spans text) k i j := by
  unfold times
  by_cases hzero : p.isZeroWidth
  · rw [if_pos hzero]
    exact spans_repeated_or_plain.trans (times_zeroWidth fun _ _ => eq_of_isZeroWidth hzero)
  · rw [if_neg hzero]
    exact spans_repeated_or_plain

end Pattern

end PatternGrammar.Regex
