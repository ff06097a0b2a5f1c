import PatternGrammar.Proofs.Regex.Leftmost
import PatternGrammar.Proofs.Regex.Lengths

/-!
# All matches of a regular expression in a text

All matches are found by one search after another, each from the end of the match before it. Where
the first one is the whole text, there is no other one that is not empty, and the other way around
(`filter_findAll_eq_iff`). Where matches laid end to end can always be carried on, the matches that
are found are laid end to end themselves and come to the end of the text (`tiles_allMatches`).
-/

namespace PatternGrammar.Regex

open PatternGrammar.Text (Span byteSize wholeSpan)

variable {re : Regex} {source s : String}

/-! ## Spans and places -/

theorem byteSize_take_lt {cs : List Char} {i j : ℕ} (hij : i < j) (hj : j ≤ cs.length) :
    byteSize (cs.take i) < byteSize (cs.take j) := by
  obtain ⟨k, rfl⟩ := Nat.exists_eq_add_of_lt hij
  have hne : (cs.drop i).take (k + 1) ≠ [] := by
    rw [← List.length_pos_iff_ne_nil, List.length_take, List.length_drop]
    omega
  have hpos : byteSize ((cs.drop i).take (k + 1)) ≠ 0 := fun h =>
    hne (Text.byteSize_eq_zero_iff.1 h)
  rw [Nat.add_assoc, List.take_add, Text.byteSize_append]
  omega

theorem byteSize_take_inj {cs : List Char} {i j : ℕ} (hi : i ≤ cs.length) (hj : j ≤ cs.length)
    (h : byteSize (cs.take i) = byteSize (cs.take j)) : i = j := by
  rcases Nat.lt_trichotomy i j with hlt | heq | hlt
  · exact absurd h (Nat.ne_of_lt (byteSize_take_lt hlt hj))
  · exact heq
  · exact absurd h (Nat.ne_of_gt (byteSize_take_lt hlt hi))

theorem byteSpan_eq {m : ℕ × ℕ} (h₁ : m.1 ≤ s.toList.length) (h₂ : m.2 ≤ s.toList.length) :
    byteSpan (offsets s.toList) m =
      ⟨byteSize (s.toList.take m.1), byteSize (s.toList.take m.2)⟩ := by
  rw [byteSpan, getD_offsets h₁, getD_offsets h₂]

theorem byteSpan_whole (s : String) :
    byteSpan (offsets s.toList) (0, s.toList.length) = wholeSpan s := by
  rw [byteSpan_eq (Nat.zero_le _) (Nat.le_refl _)]
  simp [wholeSpan]

theorem byteSpan_inj {m m' : ℕ × ℕ} (h : m.1 ≤ m.2 ∧ m.2 ≤ s.toList.length)
    (h' : m'.1 ≤ m'.2 ∧ m'.2 ≤ s.toList.length)
    (heq : byteSpan (offsets s.toList) m = byteSpan (offsets s.toList) m') : m = m' := by
  rw [byteSpan_eq (by omega) h.2, byteSpan_eq (by omega) h'.2, Span.mk.injEq] at heq
  exact Prod.ext (byteSize_take_inj (by omega) (by omega) heq.1)
    (byteSize_take_inj h.2 h'.2 heq.2)

theorem mem_allMatches (hre : re.program = re.pattern.program) {m : ℕ × ℕ}
    (h : m ∈ allMatches re.program s.toList.toArray) : m.1 ≤ m.2 ∧ m.2 ≤ s.toList.length := by
  rw [allMatches, hre] at h
  simpa using (mem_matchesFrom h).2

/-- The spans that are not empty are those of the matches that are not empty. -/
theorem filter_findAll (hre : re.program = re.pattern.program) :
    (re.findAll s).filter (fun m => m.start != m.stop) =
      ((allMatches re.program s.toList.toArray).filter fun m => m.1 != m.2).map
        (byteSpan (offsets s.toList)) := by
  rw [findAll, List.filter_map]
  congr 1
  refine List.filter_congr fun m hm => ?_
  obtain ⟨hle, hlength⟩ := mem_allMatches hre hm
  rw [Function.comp_apply, byteSpan_eq (by omega) hlength, Bool.eq_iff_iff, bne_iff_ne, bne_iff_ne]
  refine not_congr ⟨fun h => byteSize_take_inj (by omega) hlength h, fun h => ?_⟩
  dsimp only
  rw [h]

/-! ## Texts that are found whole -/

/-- Behind an empty match at the start of the text the matches begin further on. -/
theorem one_le_of_empty_first {p : Pattern} {text : Array Char} {n : ℕ} {ms : List (ℕ × ℕ)}
    (h : matchesFrom p.program text (n + 1) none 0 = (0, 0) :: ms) : ∀ m ∈ ms, 1 ≤ m.1 := by
  obtain ⟨-, rfl⟩ := matchesFrom_eq_cons h
  -- the search from the start is made twice, and the second time its match is passed over
  have hfirst : (search p.program text 0).bind (·.group 0) = some (0, 0) := by
    rw [matchesFrom] at h
    cases hsearch : (search p.program text 0).bind (·.group 0) with
    | none => simp [hsearch] at h
    | some m => simp_all
  intro m hm
  cases n with
  | zero => simp [matchesFrom] at hm
  | succ n =>
    cases hmatches : matchesFrom p.program text (n + 1) (some 0) 0 with
    | nil => simp [hmatches] at hm
    | cons first others =>
      obtain ⟨hbounds, rfl⟩ := matchesFrom_eq_cons hmatches
      have hone : 1 ≤ first.1 := by
        rw [matchesFrom, hfirst] at hmatches
        cases hsearch : (search p.program text 1).bind (·.group 0) with
        | none => simp [hsearch] at hmatches
        | some m =>
          obtain ⟨t, ht, hgroup⟩ := Option.bind_eq_some_iff.1 hsearch
          have := (group_of_search ht hgroup).1
          simp_all
      rw [hmatches] at hm
      rcases List.mem_cons.1 hm with rfl | hm
      · exact hone
      · have := (mem_matchesFrom hm).1
        omega

/-- The first match in the text is the whole text. -/
def FindsWhole (re : Regex) (s : String) : Prop :=
  (re.findAll s).head? = some (wholeSpan s)

instance (re : Regex) (s : String) : Decidable (re.FindsWhole s) :=
  inferInstanceAs (Decidable (_ = _))

/-- The whole text is the only match that is not empty iff it is the first match. -/
theorem filter_allMatches_eq_iff {p : Pattern} {text : Array Char} (htext : 0 < text.size) :
    ((allMatches p.program text).filter fun m => m.1 != m.2) = [(0, text.size)] ↔
      (allMatches p.program text).head? = some (0, text.size) := by
  rw [allMatches]
  cases hmatches : matchesFrom p.program text (2 * text.size + 2 + 1) none 0 with
  | nil => simp
  | cons m ms =>
    obtain ⟨hbounds, hms⟩ := matchesFrom_eq_cons hmatches
    rw [List.head?_cons, Option.some_inj]
    constructor
    · intro h
      by_cases hempty : m.1 = m.2
      · rw [List.filter_cons_of_neg (by simpa using hempty)] at h
        have hmem : (0, text.size) ∈ ms := List.mem_of_mem_filter (h ▸ List.mem_singleton_self _)
        have hle := (mem_matchesFrom (hms ▸ hmem)).1
        obtain rfl : m = (0, 0) := Prod.ext (by dsimp only at hle ⊢; omega) (by simpa using hle)
        have := one_le_of_empty_first hmatches _ hmem
        simp at this
      · rw [List.filter_cons_of_pos (by simpa using hempty)] at h
        exact (List.cons.inj h).1
    · rintro rfl
      rw [List.filter_cons_of_pos (by simp; omega), List.cons_eq_cons]
      refine ⟨rfl, List.filter_eq_nil_iff.2 fun m hm => ?_⟩
      have := mem_matchesFrom (hms ▸ hm)
      dsimp only at this
      simp
      omega

theorem filter_findAll_eq_iff (hre : re.program = re.pattern.program) (hs : s ≠ "") :
    (re.findAll s).filter (fun m => m.start != m.stop) = [wholeSpan s] ↔ re.FindsWhole s := by
  have htext : 0 < s.toList.toArray.size := by
    rw [List.size_toArray, List.length_pos_iff_ne_nil]
    simpa using hs
  have hplaces := filter_allMatches_eq_iff (p := re.pattern) htext
  rw [← hre, List.size_toArray] at hplaces
  have hwhole : (0 : ℕ) ≤ s.toList.length ∧ s.toList.length ≤ s.toList.length := by simp
  rw [filter_findAll hre, FindsWhole, findAll, List.head?_map, ← byteSpan_whole]
  constructor
  · intro h
    obtain ⟨m, hfilter, hm⟩ := List.map_eq_singleton_iff.1 h
    have hmem := List.mem_of_mem_filter (hfilter ▸ List.mem_singleton_self m)
    obtain rfl := byteSpan_inj (mem_allMatches hre hmem) hwhole hm
    rw [hplaces.1 hfilter, Option.map_some]
  · intro h
    obtain ⟨m, hhead, hm⟩ := Option.map_eq_some_iff.1 h
    have hmem := List.mem_of_head? hhead
    obtain rfl := byteSpan_inj (mem_allMatches hre hmem) hwhole hm
    rw [hplaces.2 hhead, List.map_singleton]

/-! ## Matches laid end to end -/

theorem CanMatch.bounds (hre : re.program = re.pattern.program) {i j : ℕ} (h : re.CanMatch s i j)
    (hi : i ≤ s.toList.length) : i ≤ j ∧ j ≤ s.toList.length := by
  obtain ⟨saved, hmatch⟩ := (Pattern.spans_iff []).1 ((canMatch_iff hre).1 h)
  exact ⟨hmatch.extends.1, by simpa using hmatch.place_le (by simpa using hi)⟩

theorem canMatch_of_search (h : compile source = .ok re) {start a b : ℕ}
    (hsearch : (search re.program s.toList.toArray start).bind (·.group 0) = some (a, b)) :
    start ≤ a ∧ b ≤ s.toList.length ∧ re.CanMatch s a b := by
  have hre := program_of_compile h
  obtain ⟨t, ht, hgroup⟩ := Option.bind_eq_some_iff.1 hsearch
  rw [hre] at ht
  obtain ⟨place, hstart, hplace, hmatch⟩ := search_sound ht
  have hwhole : t.group 0 = some (place, t.place) :=
    group_of_capture (records_of_compile h) (Nat.lt_irrefl 0) hmatch
  obtain ⟨rfl, rfl⟩ := Prod.mk.inj (Option.some.inj (hwhole.symm.trans hgroup))
  have hsize : t.place ≤ s.toList.toArray.size := hmatch.place_le hplace
  refine ⟨hstart, by simpa using hsize, (canMatch_iff hre).2 ?_⟩
  show (Pattern.capture 0 re.pattern).Spans s.toList.toArray place t.place
  exact (Pattern.spans_iff []).2 ⟨t.saved, hmatch⟩

/-- Where there is a match from the start of the text, the first match that is found begins
there. -/
theorem allMatches_eq_cons (h : compile source = .ok re) {j : ℕ} (hmatch : re.CanMatch s 0 j) :
    ∃ b ms, allMatches re.program s.toList.toArray = (0, b) :: ms ∧ re.CanMatch s 0 b := by
  obtain ⟨a, b, hsearch, -, hle, hfound⟩ :=
    exists_search_of_canMatch h hmatch (Nat.le_refl 0) (Nat.zero_le _)
  obtain rfl : a = 0 := Nat.le_zero.1 hle
  have hfalse : (0 == b && (none : Option ℕ) == some b) = false := by simp
  rw [allMatches, matchesFrom]
  simp only [hsearch, hfalse, Bool.false_eq_true, if_false]
  exact ⟨b, _, rfl, hfound⟩

/-- Matches laid end to end from the start of the text can always be carried on up to its end, and
come there in a number within the bounds. -/
structure DividesAnyWay (re : Regex) (s : String) (low : ℕ) (high : Option ℕ) : Prop where
  continues : ∀ k i, Times (re.CanMatch s) k 0 i → i < s.toList.length → ∃ j, re.CanMatch s i j
  bounded : ∀ k, Times (re.CanMatch s) k 0 s.toList.length → low ≤ k ∧ ∀ m ∈ high, k ≤ m

/-- Where matches laid end to end can always be carried on and none is empty, the matches that are
found from a place on, to which matches have come, are laid end to end up to the end of the text. -/
theorem tiles_matchesFrom (h : compile source = .ok re) (hempty : re.NeverEmpty s)
    (hcontinues : ∀ k i, Times (re.CanMatch s) k 0 i → i < s.toList.length →
      ∃ j, re.CanMatch s i j) {n k i : ℕ} (hn : s.toList.length - i < n)
    (hk : Times (re.CanMatch s) k 0 i) (hi : i ≤ s.toList.length) (last : Option ℕ) :
    Tiles i (matchesFrom re.program s.toList.toArray n last i) s.toList.length ∧
      ∀ m ∈ matchesFrom re.program s.toList.toArray n last i, re.CanMatch s m.1 m.2 := by
  have hre := program_of_compile h
  induction n generalizing k i last with
  | zero => omega
  | succ n ih =>
    rw [matchesFrom]
    rcases Nat.lt_or_ge i s.toList.length with hlt | hge
    · obtain ⟨j, hj⟩ := hcontinues k i hk hlt
      obtain ⟨a, b, hsearch, hlow, hhigh, hmatch⟩ :=
        exists_search_of_canMatch h hj (Nat.le_refl i) (by simpa using hi)
      obtain rfl : a = i := Nat.le_antisymm hhigh hlow
      obtain ⟨hab, hb⟩ := hmatch.bounds hre hi
      have hne : a ≠ b := fun heq => hempty a (heq ▸ hmatch)
      have hfalse : (a == b && last == some b) = false := by simp [hne]
      have hstep : Times (re.CanMatch s) 1 a b := ⟨b, hmatch, rfl⟩
      obtain ⟨htiles, hall⟩ := ih (by omega) (hk.add hstep) hb (some b)
      simp only [hsearch, hfalse, Bool.false_eq_true, if_false]
      exact ⟨⟨rfl, hab, htiles⟩, List.forall_mem_cons.2 ⟨hmatch, hall⟩⟩
    · obtain rfl : i = s.toList.length := Nat.le_antisymm hi hge
      have hnone :
          (search re.program s.toList.toArray s.toList.length).bind (·.group 0) = none := by
        rw [Option.eq_none_iff_forall_ne_some]
        rintro ⟨a, b⟩ hsearch
        obtain ⟨hlow, hhigh, hmatch⟩ := canMatch_of_search h hsearch
        obtain ⟨hab, -⟩ := hmatch.bounds hre (by
          by_contra hgt
          obtain ⟨t, ht, hgroup⟩ := Option.bind_eq_some_iff.1 hsearch
          rw [hre] at ht
          have := group_of_search ht hgroup
          dsimp only at this
          omega)
        obtain rfl : a = b := by omega
        exact hempty a hmatch
      simp [hnone, Tiles]

theorem times_of_tiles {R : ℕ → ℕ → Prop} {i j : ℕ} {ms : List (ℕ × ℕ)} (h : Tiles i ms j)
    (hms : ∀ m ∈ ms, R m.1 m.2) : Times R ms.length i j := by
  induction ms generalizing i with
  | nil => exact h
  | cons m ms ih =>
    obtain ⟨rfl, -, hrest⟩ := h
    obtain ⟨hm, hms⟩ := List.forall_mem_cons.1 hms
    exact ⟨m.2, hm, ih hrest hms⟩

/-- Where a text is divided by matches in any way, the matches that are found divide it. -/
theorem tiles_allMatches (h : compile source = .ok re) (hempty : re.NeverEmpty s)
    {low : ℕ} {high : Option ℕ} (hdivides : re.DividesAnyWay s low high) :
    Tiles 0 (allMatches re.program s.toList.toArray) s.toList.length ∧
      (∀ m ∈ allMatches re.program s.toList.toArray, m.1 ≠ m.2) ∧
      low ≤ (allMatches re.program s.toList.toArray).length ∧
      ∀ m ∈ high, (allMatches re.program s.toList.toArray).length ≤ m := by
  obtain ⟨htiles, hall⟩ := tiles_matchesFrom h hempty hdivides.continues
    (n := 2 * s.toList.toArray.size + 3) (k := 0) (by simp; omega) rfl (Nat.zero_le _) none
  refine ⟨htiles, fun m hm heq => hempty m.1 ?_, hdivides.bounded _ (times_of_tiles htiles hall)⟩
  have hmatch := hall m hm
  rwa [← heq] at hmatch

/-- Where matches from a place on end at one place only, there is at most one way to lay them end to
end up to a place. -/
theorem times_unique {R : ℕ → ℕ → Prop} {stop : ℕ} (hunique : ∀ i j j', R i j → R i j' → j = j')
    (hlt : ∀ i j, R i j → i ≤ stop → i < j ∧ j ≤ stop) {k n a i : ℕ} (ha : a ≤ stop)
    (hk : Times R k a i) (hn : Times R n a stop) :
    (i < stop → ∃ j, R i j) ∧ (i = stop → k = n) := by
  induction k generalizing a n with
  | zero =>
    obtain rfl : a = i := hk
    cases n with
    | zero =>
      obtain rfl : a = stop := hn
      exact ⟨fun h => absurd h (Nat.lt_irrefl _), fun _ => rfl⟩
    | succ n =>
      obtain ⟨m, ham, hm⟩ := hn
      refine ⟨fun _ => ⟨m, ham⟩, fun heq => ?_⟩
      have := hlt a m ham ha
      omega
  | succ k ih =>
    obtain ⟨m, ham, hmi⟩ := hk
    obtain ⟨hm, hstop⟩ := hlt a m ham ha
    cases n with
    | zero =>
      obtain rfl : a = stop := hn
      omega
    | succ n =>
      obtain ⟨m', ham', hmn⟩ := hn
      obtain rfl := hunique a m m' ham ham'
      obtain ⟨hcontinue, hcount⟩ := ih hstop hmi hmn
      exact ⟨hcontinue, fun heq => by rw [hcount heq]⟩

/-- A text that matches divide in one way, where they end at one place only, is divided in any
way. -/
theorem dividesAnyWay_of_unambiguous (hre : re.program = re.pattern.program)
    (hempty : re.NeverEmpty s) (hunique : re.Unambiguous s) {low : ℕ} {high : Option ℕ}
    {n : ℕ} (hn : Times (re.CanMatch s) n 0 s.toList.length)
    (hbounds : low ≤ n ∧ ∀ m ∈ high, n ≤ m) : re.DividesAnyWay s low high := by
  have hlt : ∀ i j, re.CanMatch s i j → i ≤ s.toList.length → i < j ∧ j ≤ s.toList.length := by
    intro i j hij hi
    obtain ⟨hle, hj⟩ := hij.bounds hre hi
    exact ⟨Nat.lt_of_le_of_ne hle fun heq => hempty i (heq ▸ hij), hj⟩
  refine ⟨fun k i hk => (times_unique hunique hlt (Nat.zero_le _) hk hn).1, fun k hk => ?_⟩
  rw [(times_unique hunique hlt (Nat.zero_le _) hk hn).2 rfl]
  exact hbounds

end PatternGrammar.Regex
