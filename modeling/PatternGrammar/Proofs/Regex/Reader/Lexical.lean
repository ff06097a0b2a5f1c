import Mathlib.Data.Nat.Notation
import PatternGrammar.Regex.Reader.Lexical

/-!
# Reading in front of a closing parenthesis

What is read of a regular expression does not change when a closing parenthesis and more text on
the same line are put behind it. The one exception is a comment that is still open at the end of
the regular expression: it goes on over all that is put behind.

`Follows` is the relation between what is left to read in the two cases, and a reading function is
`Local` if it reads the same in both of them. Here are the functions for blanks, numbers and
hexadecimal escapes.

Main results:

* `Reader.Follows.skip`: blanks and comments are passed over the same.
* `Reader.collect_follows`, `Reader.readCount_local`, `Reader.readHex_local`: rows of characters,
  numbers and hexadecimal escapes are read the same.
-/

namespace PatternGrammar.Regex.Reader

open PatternGrammar.Text (isBlank)

/-! ## Text behind a regular expression -/

/-- A closing parenthesis and more text on its line. -/
def Closing (back : List Char) : Prop :=
  ∃ tail, back = ')' :: tail ∧ '\n' ∉ tail

/-- What is left of a text, and what is left where `back` stands behind the text: `back` is still
there, or an open comment has taken it. -/
def Follows (back rest rest' : List Char) : Prop :=
  rest' = rest ++ back ∨ (rest = [] ∧ rest' = [])

/-- A function that reads the same of a text with and without `back` behind it, where it can read
the text at all. -/
def Local {α : Type} (back : List Char) (read : List Char → Except Error (α × List Char)) : Prop :=
  ∀ cs cs' x rest, Follows back cs cs' → read cs = .ok (x, rest) →
    ∃ rest', read cs' = .ok (x, rest') ∧ Follows back rest rest'

variable {back cs cs' rest rest' : List Char} {extended : Bool}

theorem Follows.refl : Follows back cs (cs ++ back) := .inl rfl

theorem Follows.nil : Follows back [] [] := .inr ⟨rfl, rfl⟩

/-- As long as something is left, `back` stands behind it. -/
theorem Follows.eq_append {c : Char} (h : Follows back (c :: cs) cs') : cs' = c :: (cs ++ back) := by
  rcases h with rfl | ⟨h, -⟩
  · rfl
  · simp at h

theorem Follows.eq_nil (h : Follows back cs []) : cs = [] := by
  rcases h with h | ⟨h, -⟩
  · exact (List.append_eq_nil_iff.1 h.symm).1
  · exact h

/-- What does not begin with a character that is no closing parenthesis still does not. -/
theorem Follows.ne_cons {d : Char} (hback : Closing back) (hd : d ≠ ')') (h : Follows back cs cs')
    (hne : ∀ ds, cs ≠ d :: ds) (ds : List Char) : cs' ≠ d :: ds := by
  rintro rfl
  rcases h with heq | ⟨-, heq⟩
  · cases cs with
    | nil =>
      obtain ⟨tail, rfl, -⟩ := hback
      exact hd (List.cons.inj heq).1
    | cons c cs =>
      obtain ⟨rfl, -⟩ := List.cons.inj heq
      exact hne cs rfl
  · simp at heq

theorem Local.bind {α β : Type} {read : List Char → Except Error (α × List Char)}
    {next : α → List Char → Except Error (β × List Char)} (hread : Local back read)
    (hnext : ∀ x, Local back (next x)) : Local back fun cs => read cs >>= fun p => next p.1 p.2 := by
  intro cs cs' y rest hcs h
  obtain ⟨⟨x, mid⟩, hx, hy⟩ := bind_eq_ok.1 h
  obtain ⟨mid', hx', hmid⟩ := hread cs cs' x mid hcs hx
  obtain ⟨rest', hy', hrest⟩ := hnext x mid mid' y rest hmid hy
  exact ⟨rest', bind_eq_ok.2 ⟨(x, mid'), hx', hy'⟩, hrest⟩

/-- What does not read on keeps what is left. -/
theorem Local.keep {α : Type} (x : α) : Local back fun cs => .ok (x, cs) := by
  intro cs cs' y rest hcs h
  obtain ⟨rfl, rfl⟩ := Prod.mk.inj (Except.ok.inj h)
  exact ⟨cs', rfl, hcs⟩

/-- What is done with what was read does not matter. -/
theorem Local.lift {α : Type} (result : Except Error α) :
    Local back fun cs => result >>= fun x => .ok (x, cs) := by
  intro cs cs' x rest hcs h
  obtain ⟨y, hy, h⟩ := bind_eq_ok.1 h
  obtain ⟨rfl, rfl⟩ := Prod.mk.inj (Except.ok.inj h)
  exact ⟨cs', bind_eq_ok.2 ⟨y, hy, rfl⟩, hcs⟩

theorem Local.fail {α : Type} (e : Error) :
    Local back fun _ => (.error e : Except Error (α × List Char)) := by
  intro cs cs' x rest _ h
  simp at h

theorem Local.ite {α : Type} {p : Prop} [Decidable p]
    {read read' : List Char → Except Error (α × List Char)} (hread : Local back read)
    (hread' : Local back read') : Local back fun cs => if p then read cs else read' cs := by
  split
  · exact hread
  · exact hread'

/-! ## Blanks and comments -/

theorem skipBlanks_comment (h : '\n' ∉ cs) : skipBlanks true cs = [] := by
  induction cs with
  | nil => rfl
  | cons c cs ih =>
    rw [List.mem_cons, not_or] at h
    have hc : (c != '\n') = true := by simpa using Ne.symm h.1
    rw [skipBlanks, if_pos rfl, hc]
    exact ih h.2

theorem skipBlanks_append (hback : Closing back) (inComment : Bool) (cs : List Char) :
    Follows back (skipBlanks inComment cs) (skipBlanks inComment (cs ++ back)) := by
  induction cs generalizing inComment with
  | nil =>
    obtain ⟨tail, rfl, hline⟩ := hback
    cases inComment with
    | true => exact .inr ⟨rfl, by rw [List.nil_append]; exact skipBlanks_comment (by simpa using hline)⟩
    | false => exact .inl (by simp [skipBlanks, isBlank])
  | cons c cs ih =>
    simp only [List.cons_append, skipBlanks]
    split
    · exact ih _
    · split
      · exact ih _
      · split
        · exact ih _
        · exact .refl

theorem Follows.skip (extended : Bool) (hback : Closing back) (h : Follows back cs cs') :
    Follows back (skip extended cs) (skip extended cs') := by
  rcases h with rfl | ⟨rfl, rfl⟩
  · cases extended with
    | true => exact skipBlanks_append hback false cs
    | false => exact .refl
  · cases extended <;> exact .nil

theorem length_skipBlanks_le (inComment : Bool) (cs : List Char) :
    (skipBlanks inComment cs).length ≤ cs.length := by
  induction cs generalizing inComment with
  | nil => simp [skipBlanks]
  | cons c cs ih =>
    have := fun b => Nat.le_succ_of_le (ih b)
    rw [skipBlanks]
    split
    · exact this _
    · split
      · exact this _
      · split
        · exact this _
        · exact Nat.le_refl _

theorem length_skip_le (extended : Bool) (cs : List Char) :
    (skip extended cs).length ≤ cs.length := by
  unfold skip
  split
  · exact length_skipBlanks_le false cs
  · exact Nat.le_refl _

theorem skipBlanks_idem (inComment : Bool) (cs : List Char) :
    skipBlanks false (skipBlanks inComment cs) = skipBlanks inComment cs := by
  induction cs generalizing inComment with
  | nil => rfl
  | cons c cs ih =>
    rw [skipBlanks]
    split
    · exact ih _
    · split
      · exact ih _
      · rename_i hblank
        split
        · exact ih _
        · rename_i hmark
          rw [skipBlanks, if_neg (by simp), if_neg hblank, if_neg hmark]

theorem skip_idem (extended : Bool) (cs : List Char) :
    skip extended (skip extended cs) = skip extended cs := by
  cases extended with
  | true => exact skipBlanks_idem false cs
  | false => rfl

theorem Follows.dropWhile {p : Char → Bool} (hback : Closing back) (hp : p ')' = false)
    (h : Follows back cs cs') : Follows back (cs.dropWhile p) (cs'.dropWhile p) := by
  rcases h with rfl | ⟨rfl, rfl⟩
  · obtain ⟨tail, rfl, -⟩ := hback
    left
    rw [List.dropWhile_append]
    split
    · rename_i hempty
      rw [List.isEmpty_iff.1 hempty]
      simp [hp]
    · rfl
  · exact .nil

/-- Where a text is cut before its end, it is cut at the same place with something behind it. -/
theorem cut_append {p : Char → Bool} {c : Char} (back : List Char)
    (h : cs.dropWhile p = c :: rest) :
    (cs ++ back).takeWhile p = cs.takeWhile p ∧ (cs ++ back).dropWhile p = c :: (rest ++ back) := by
  have hlength := congrArg List.length (List.takeWhile_append_dropWhile (p := p) (l := cs))
  rw [h, List.length_append, List.length_cons] at hlength
  constructor
  · rw [List.takeWhile_append, if_neg (by omega)]
  · rw [List.dropWhile_append, h]
    rfl

/-! ## Rows of characters -/

theorem collectFor_of_le (p : Char → Bool) {n m : ℕ} (hn : cs.length ≤ n) (hm : cs.length ≤ m) :
    collectFor extended p n cs = collectFor extended p m cs := by
  induction n generalizing cs m with
  | zero =>
    obtain rfl := List.eq_nil_of_length_eq_zero (Nat.le_zero.1 hn)
    cases m <;> rfl
  | succ n ih =>
    cases cs with
    | nil => cases m <;> rfl
    | cons c cs =>
      obtain ⟨m, rfl⟩ : ∃ k, m = k + 1 := ⟨m - 1, by simp only [List.length_cons] at hm; omega⟩
      have hskip := length_skip_le extended cs
      simp only [List.length_cons] at hn hm
      rw [collectFor, collectFor, ih (by omega) (m := m) (by omega)]

theorem collect_cons (p : Char → Bool) (c : Char) (cs : List Char) :
    collect extended p (c :: cs) =
      if p c then
        (c :: (collect extended p (skip extended cs)).1, (collect extended p (skip extended cs)).2)
      else ([], c :: cs) := by
  rw [collect, List.length_cons, collectFor, collect,
    collectFor_of_le p (length_skip_le extended cs) (Nat.le_refl _)]

/-- A row is collected the same where something stands behind it, or where a closing parenthesis
would end it. -/
theorem collect_follows (extended : Bool) (p : Char → Bool) (hback : Closing back)
    (hcs : Follows back cs cs')
    (hstop : (collect extended p cs).2 ≠ [] ∨ p ')' = false) :
    (collect extended p cs').1 = (collect extended p cs).1 ∧
      Follows back (collect extended p cs).2 (collect extended p cs').2 := by
  induction hn : cs.length using Nat.strongRecOn generalizing cs cs' with
  | ind n ih =>
    cases cs with
    | nil =>
      have hp : p ')' = false := hstop.resolve_left fun h => h rfl
      rcases hcs with rfl | ⟨-, rfl⟩
      · obtain ⟨tail, rfl, -⟩ := hback
        have hnone : collect extended p (')' :: tail) = ([], ')' :: tail) := by
          rw [collect_cons, hp]
          rfl
        rw [hnone]
        exact ⟨rfl, .refl⟩
      · exact ⟨rfl, .nil⟩
    | cons c cs =>
      rw [hcs.eq_append]
      rw [collect_cons] at hstop
      rw [collect_cons, collect_cons]
      split
      · rename_i hc
        rw [if_pos hc] at hstop
        have hskip := length_skip_le extended cs
        rw [List.length_cons] at hn
        obtain ⟨htaken, hrest⟩ := ih _ (by omega) (Follows.refl.skip extended hback) hstop rfl
        exact ⟨by rw [htaken], hrest⟩
      · exact ⟨rfl, .refl⟩

/-! ## Counts -/

theorem Follows.skipInCount (extended : Bool) (hback : Closing back) (h : Follows back cs cs') :
    Follows back (skipInCount extended cs) (skipInCount extended cs') := by
  have hblank : isBlank ')' = false := by decide
  cases cs with
  | nil =>
    rcases h with rfl | ⟨-, rfl⟩
    · obtain ⟨tail, rfl, -⟩ := hback
      exact .inl (by simp [Reader.skipInCount, hblank])
    · exact .nil
  | cons c cs =>
    rw [h.eq_append]
    simp only [Reader.skipInCount]
    split
    · split
      · exact skipBlanks_append hback false (c :: cs)
      · exact Follows.dropWhile hback hblank .refl
    · exact .refl

theorem readCount_local (hback : Closing back) : Local back (readCount extended) := by
  intro cs cs' x rest hcs h
  obtain ⟨hdigits, hmid⟩ := collect_follows extended Char.isDigit hback
    (hcs.dropWhile hback (p := isBlank) (by decide)) (.inr (by decide))
  have hrest := hmid.skipInCount extended hback
  simp only [readCount] at h ⊢
  rw [hdigits]
  split at h
  · rename_i hempty
    obtain ⟨rfl, rfl⟩ := Prod.mk.inj (Except.ok.inj h)
    exact ⟨_, if_pos hempty, hrest⟩
  · rename_i hempty
    split at h
    · rename_i hle
      obtain ⟨rfl, rfl⟩ := Prod.mk.inj (Except.ok.inj h)
      exact ⟨_, by rw [if_neg hempty, if_pos hle], hrest⟩
    · simp at h

/-! ## Hexadecimal escapes -/

theorem readHexDigits_local (hback : Closing back) (n : ℕ) :
    Local back (readHexDigits extended n) := by
  induction n with
  | zero =>
    intro cs cs' x rest hcs h
    obtain ⟨rfl, rfl⟩ := Prod.mk.inj (Except.ok.inj h)
    exact ⟨cs', rfl, hcs⟩
  | succ n ih =>
    intro cs cs' x rest hcs h
    cases cs with
    | nil => simp [readHexDigits] at h
    | cons c cs =>
      rw [hcs.eq_append]
      rw [readHexDigits] at h ⊢
      split at h
      · rename_i hc
        obtain ⟨⟨ds, mid⟩, hds, h⟩ := bind_eq_ok.1 h
        obtain ⟨rfl, rfl⟩ := Prod.mk.inj (Except.ok.inj h)
        obtain ⟨rest', hds', hrest⟩ := ih _ _ _ _ (Follows.refl.skip extended hback) hds
        exact ⟨rest', by rw [if_pos hc]; exact bind_eq_ok.2 ⟨_, hds', rfl⟩, hrest⟩
      · simp at h

/-- What stands between braces is read the same, if the closing brace is there. -/
theorem collect_braces (hback : Closing back) {ds : List Char} {c : Char}
    (h : collect extended (· != '}') (skip extended cs) = (ds, c :: rest)) :
    collect extended (· != '}') (skip extended (cs ++ back)) = (ds, c :: (rest ++ back)) := by
  have hskip : Follows back (skip extended cs) (skip extended (cs ++ back)) :=
    Follows.refl.skip extended hback
  obtain ⟨htaken, hrest⟩ := collect_follows extended (· != '}') hback hskip
    (.inl (by rw [h]; simp))
  rw [h] at htaken hrest
  exact Prod.ext htaken hrest.eq_append

theorem readHexRow_local (hback : Closing back) (width : ℕ) :
    Local back (readHexRow extended width) := by
  intro cs cs' ds rest hcs h
  unfold readHexRow at h
  split at h
  · rename_i cs
    rw [hcs.eq_append]
    split at h
    · simp at h
    · rename_i hcollect
      split at h
      · rename_i hall
        obtain ⟨rfl, rfl⟩ := Prod.mk.inj (Except.ok.inj h)
        refine ⟨_, ?_, .refl⟩
        simp only [readHexRow, collect_braces hback hcollect]
        exact if_pos hall
      · simp at h
  · rename_i hbrace
    obtain ⟨rest', hread, hrest⟩ := readHexDigits_local hback width _ _ _ _ hcs h
    refine ⟨rest', ?_, hrest⟩
    unfold readHexRow
    split
    · exact absurd rfl (hcs.ne_cons hback (by decide) hbrace _)
    · exact hread

theorem readHex_local (hback : Closing back) (width : ℕ) : Local back (readHex extended width) := by
  intro cs cs' c rest hcs h
  obtain ⟨⟨ds, mid⟩, hds, h⟩ := bind_eq_ok.1 h
  obtain ⟨mid', hds', hmid⟩ := readHexRow_local hback width _ _ _ _ (hcs.skip extended hback) hds
  dsimp only at h
  split at h
  · simp at h
  · rename_i hempty
    split at h
    · rename_i hchar
      obtain ⟨rfl, rfl⟩ := Prod.mk.inj (Except.ok.inj h)
      refine ⟨mid', bind_eq_ok.2 ⟨_, hds', ?_⟩, hmid⟩
      dsimp only
      rw [if_neg hempty, hchar]
      rfl
    · simp at h

/-- The character that decides how an escape is written is there, if the escape is. -/
theorem head?_skip_of_readHex (hback : Closing back) {width : ℕ} {x : Char × List Char}
    (hcs : Follows back cs cs') (h : readHex extended (width + 1) cs = .ok x) :
    (skip extended cs').head? = (skip extended cs).head? := by
  have hskip : Follows back (skip extended cs) (skip extended cs') := hcs.skip extended hback
  obtain ⟨row, hrow, -⟩ := bind_eq_ok.1 h
  generalize skip extended cs = ds at hrow hskip
  cases ds with
  | nil => simp [readHexRow, readHexDigits] at hrow
  | cons d ds => rw [hskip.eq_append, List.head?_cons, List.head?_cons]

end PatternGrammar.Regex.Reader
