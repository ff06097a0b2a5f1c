import PatternGrammar.Proofs.Regex.Completeness

/-!
# How far matches go

The minimal length of a pattern is computed in bytes, for the size of its program. Where it is there
and not zero, the pattern has no empty matches (`Regex.neverEmpty_of_minLength`). A pattern without
repetitions can have a width, a number of characters that all its matches have; then a match from a
place ends at one place only (`Regex.unambiguous_of_width`).
-/

namespace PatternGrammar.Regex

variable {re : Regex}

/-- The expression has no empty match in the text. -/
def NeverEmpty (re : Regex) (s : String) : Prop :=
  ∀ i, ¬re.CanMatch s i i

/-- A match from a place on ends at one place only. -/
def Unambiguous (re : Regex) (s : String) : Prop :=
  ∀ i j j', re.CanMatch s i j → re.CanMatch s i j' → j = j'

/-- A pattern with a minimal length that is not zero goes on in the text. -/
theorem Pattern.Matches.place_lt {text : Array Char} {p : Pattern} {a b : Cursor}
    (h : p.Matches text a b) (hlength : ∃ n, p.minLength = some n ∧ 0 < n) :
    a.place < b.place := by
  obtain ⟨n, hlength, hn⟩ := hlength
  induction p generalizing n a b with
  | empty | look l =>
    obtain rfl := Option.some.inj hlength
    exact absurd hn (Nat.lt_irrefl 0)
  | literal cs =>
    obtain ⟨-, rfl⟩ := h
    cases cs with
    | nil =>
      obtain rfl := Option.some.inj hlength
      simp [bytesOfChars] at hn
    | cons c cs => exact Nat.lt_add_of_pos_right (Nat.succ_pos _)
  | chars set _ =>
    obtain ⟨c, -, -, rfl⟩ := h
    exact Nat.lt_succ_self _
  | seq first rest ihf ihr =>
    obtain ⟨m, hm, hb⟩ := h
    obtain ⟨x, hx, hlength⟩ := Option.bind_eq_some_iff.1 hlength
    obtain ⟨y, hy, hlength⟩ := Option.bind_eq_some_iff.1 hlength
    obtain rfl := Option.some.inj hlength
    rcases Nat.eq_zero_or_pos x with rfl | hpos
    · exact Nat.lt_of_le_of_lt hm.extends.1 (ihr hb y hy (by omega))
    · exact Nat.lt_of_lt_of_le (ihf hm x hx hpos) hb.extends.1
  | choice first rest ihf ihr =>
    obtain ⟨x, hx, hlength⟩ := Option.bind_eq_some_iff.1 hlength
    obtain ⟨y, hy, hlength⟩ := Option.bind_eq_some_iff.1 hlength
    obtain rfl := Option.some.inj hlength
    rcases h with h | h
    · exact ihf h x hx (by omega)
    · exact ihr h y hy (by omega)
  | «repeated» body min max greedy ih =>
    obtain ⟨k, hk, htimes⟩ := h
    obtain ⟨x, hx, rfl⟩ := Option.map_eq_some_iff.1 hlength
    have hx' : 0 < x := Nat.pos_of_mul_pos_right hn
    cases k with
    | zero =>
      have := hk.1
      obtain rfl : min = 0 := by omega
      simp at hn
    | succ k =>
      obtain ⟨m, hm, hb⟩ := htimes
      refine Nat.lt_of_lt_of_le (ih hm x hx hx') ?_
      exact Times.trans_of (Q := fun a b : Cursor => a.place ≤ b.place) (fun _ => Nat.le_refl _)
        (fun _ _ _ hab hbc => Nat.le_trans hab.extends.1 hbc) hb
  | capture index body ih =>
    obtain ⟨m, hm, rfl⟩ := h
    exact ih (a := a.record (2 * index)) (b := m) hm n hlength hn

theorem neverEmpty_of_minLength (hre : re.program = re.pattern.program)
    (hlength : ∃ n, re.pattern.minLength = some n ∧ 0 < n) (s : String) : re.NeverEmpty s := by
  intro i h
  obtain ⟨saved, hmatch⟩ := (Pattern.spans_iff []).1 ((canMatch_iff hre).1 h)
  exact Nat.lt_irrefl i (hmatch.place_lt hlength)

/-- The number of characters of each match of a pattern without repetitions, where the branches of
its choices agree on it. -/
def Pattern.width? : Pattern → Option ℕ
  | empty | look _ => some 0
  | literal cs => some cs.length
  | chars _ _ => some 1
  | seq first rest => do return (← width? first) + (← width? rest)
  | choice first rest => if width? first = width? rest then width? first else none
  | «repeated» .. => none
  | capture _ body => width? body

theorem Pattern.Matches.place_eq {text : Array Char} {p : Pattern} {a b : Cursor}
    (h : p.Matches text a b) {n : ℕ} (hwidth : p.width? = some n) : b.place = a.place + n := by
  induction p generalizing a b n with
  | empty =>
    obtain rfl : a = b := h
    obtain rfl := Option.some.inj hwidth
    rfl
  | look l =>
    obtain ⟨-, rfl⟩ := h
    obtain rfl := Option.some.inj hwidth
    rfl
  | literal cs =>
    obtain ⟨-, rfl⟩ := h
    obtain rfl := Option.some.inj hwidth
    rfl
  | chars set _ =>
    obtain ⟨c, -, -, rfl⟩ := h
    obtain rfl := Option.some.inj hwidth
    rfl
  | seq first rest ihf ihr =>
    obtain ⟨m, hm, hb⟩ := h
    obtain ⟨x, hx, hwidth⟩ := Option.bind_eq_some_iff.1 hwidth
    obtain ⟨y, hy, hwidth⟩ := Option.bind_eq_some_iff.1 hwidth
    obtain rfl := Option.some.inj hwidth
    rw [ihr hb hy, ihf hm hx, Nat.add_assoc]
  | choice first rest ihf ihr =>
    rw [width?] at hwidth
    split at hwidth
    · rename_i hsame
      rcases h with h | h
      · exact ihf h hwidth
      · exact ihr h (hsame ▸ hwidth)
    · exact nomatch hwidth
  | «repeated» body min max greedy ih => exact nomatch hwidth
  | capture index body ih =>
    obtain ⟨m, hm, rfl⟩ := h
    exact ih (a := a.record (2 * index)) (b := m) hm hwidth

/-- Matches of one width end at one place only. -/
theorem unambiguous_of_width (hre : re.program = re.pattern.program) {n : ℕ}
    (hwidth : re.pattern.width? = some n) (s : String) : re.Unambiguous s := by
  have hplace : ∀ i j, re.CanMatch s i j → j = i + n := by
    intro i j h
    obtain ⟨saved, hmatch⟩ := (Pattern.spans_iff []).1 ((canMatch_iff hre).1 h)
    exact hmatch.place_eq hwidth
  intro i j j' h h'
  rw [hplace i j h, hplace i j' h']

end PatternGrammar.Regex
