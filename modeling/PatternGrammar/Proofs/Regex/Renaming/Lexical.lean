import Mathlib.Data.Bool.AllAny
import PatternGrammar.Proofs.Regex.Reader.Lexical

/-!
# Regular expressions whose groups are given names

The direct pattern of a rule is its pattern with names for the groups of the components, in front of
a closing parenthesis. What stands in the groups may be torn: a class, a comment or a row in braces
may begin in one group and end in another one, so that what is read of it depends on the names. But
how far the reader goes does not. `Renamed` is the relation between what is left to read of the two
texts, and `Agree` says of two reading functions that they keep to it where both succeed.

Here are the functions for blanks, numbers and hexadecimal escapes.

Main results: `Reader.Renamed.skip`, `Reader.Renamed.collect_braces`, `Reader.readHex_agree`.
-/

namespace PatternGrammar.Regex.Reader

open PatternGrammar.Text (isBlank)

/-! ## Two ways to write a row of groups -/

/-- A character that stands for itself in a class, in a comment and between braces. -/
def Inert (c : Char) : Prop :=
  isBlank c = false ∧ c ∉ ['#', '[', ']', '-', '&', '~', '\\', '}']

instance (c : Char) : Decidable (Inert c) :=
  inferInstanceAs (Decidable (_ ∧ _))

/-- Whether a group of a component may follow. -/
def endsGroup (c : Char) : Bool :=
  c == ')' || c == '|'

/-- What is left of a pattern whose groups of components record nothing, and what is left of the
pattern in which they have names and `back` stands behind them. The index tells if such a group may
come next. -/
inductive Renamed (back : List Char) : Bool → List Char → List Char → Prop
  | done {b : Bool} : Renamed back b [] back
  /-- A comment has taken what stands behind. -/
  | taken {b : Bool} : Renamed back b [] []
  | char {b : Bool} {c : Char} {cs cs' : List Char} (rest : Renamed back (endsGroup c) cs cs') :
    Renamed back b (c :: cs) (c :: cs')
  | group {name cs cs' : List Char} (inert : ∀ c ∈ name, Inert c) (unclosed : '>' ∉ name)
    (rest : Renamed back false cs cs') :
    Renamed back true ('(' :: '?' :: ':' :: cs) ('(' :: '?' :: 'P' :: '<' :: (name ++ '>' :: cs'))

variable {back cs cs' rest rest' : List Char} {b extended : Bool} {c : Char}

namespace Renamed

theorem of_false (h : Renamed back false cs cs') : Renamed back b cs cs' := by
  cases h with
  | done => exact .done
  | taken => exact .taken
  | char h => exact .char h

theorem anywhere (h : Renamed back b cs cs') : Renamed back true cs cs' := by
  cases b with
  | false => exact h.of_false
  | true => exact h

/-- Where no group of a component may follow, both texts go on with one character. -/
theorem exists_cons (h : Renamed back false (c :: cs) cs') :
    ∃ ds, cs' = c :: ds ∧ Renamed back (endsGroup c) cs ds := by
  cases h with
  | char h => exact ⟨_, rfl, h⟩

/-- A text that does not begin with a character does not with names in it. -/
theorem ne_cons (hback : Closing back) {d : Char} (hd : d ≠ ')') (h : Renamed back b cs cs')
    (hne : ∀ ds, cs ≠ d :: ds) (ds : List Char) : cs' ≠ d :: ds := by
  rintro rfl
  cases h with
  | done =>
    obtain ⟨tail, htail, -⟩ := hback
    exact hd (List.cons.inj htail).1
  | char _ => exact hne _ rfl
  | group _ _ _ => exact hne _ rfl

end Renamed

/-- Two reading functions go equally far where both succeed. -/
def Agree {α β : Type} (back : List Char) (b : Bool)
    (read : List Char → Except Error (α × List Char))
    (read' : List Char → Except Error (β × List Char)) : Prop :=
  ∀ cs cs' x x' rest rest', Renamed back b cs cs' → read cs = .ok (x, rest) →
    read' cs' = .ok (x', rest') → Renamed back true rest rest'

namespace Agree

variable {α β γ δ : Type}

theorem bind {read : List Char → Except Error (α × List Char)}
    {read' : List Char → Except Error (β × List Char)}
    {next : α → List Char → Except Error (γ × List Char)}
    {next' : β → List Char → Except Error (δ × List Char)} (hread : Agree back b read read')
    (hnext : ∀ x x', Agree back true (next x) (next' x')) :
    Agree back b (fun cs => read cs >>= fun p => next p.1 p.2)
      fun cs => read' cs >>= fun p => next' p.1 p.2 := by
  intro cs cs' y y' rest rest' hcs h h'
  obtain ⟨⟨x, mid⟩, hx, hy⟩ := bind_eq_ok.1 h
  obtain ⟨⟨x', mid'⟩, hx', hy'⟩ := bind_eq_ok.1 h'
  exact hnext x x' _ _ _ _ _ _ (hread _ _ _ _ _ _ hcs hx hx') hy hy'

/-- What does not read on keeps what is left. -/
theorem keep (x : α) (x' : β) : Agree back b (fun cs => .ok (x, cs)) fun cs => .ok (x', cs) := by
  intro cs cs' y y' rest rest' hcs h h'
  obtain ⟨rfl, rfl⟩ := Prod.mk.inj (Except.ok.inj h)
  obtain ⟨rfl, rfl⟩ := Prod.mk.inj (Except.ok.inj h')
  exact hcs.anywhere

theorem map {read : List Char → Except Error (α × List Char)}
    {read' : List Char → Except Error (β × List Char)} (hread : Agree back b read read')
    (f : List Char → α → γ) (f' : List Char → β → δ) :
    Agree back b (fun cs => read cs >>= fun p => .ok (f cs p.1, p.2))
      fun cs => read' cs >>= fun p => .ok (f' cs p.1, p.2) := by
  intro cs cs' y y' rest rest' hcs h h'
  obtain ⟨⟨x, mid⟩, hx, hy⟩ := bind_eq_ok.1 h
  obtain ⟨⟨x', mid'⟩, hx', hy'⟩ := bind_eq_ok.1 h'
  obtain ⟨-, rfl⟩ := Prod.mk.inj (Except.ok.inj hy)
  obtain ⟨-, rfl⟩ := Prod.mk.inj (Except.ok.inj hy')
  exact hread _ _ _ _ _ _ hcs hx hx'

theorem fail (e e' : Error) : Agree back b (fun _ => (.error e : Except Error (α × List Char)))
    fun _ => (.error e' : Except Error (β × List Char)) := by
  intro cs cs' x x' rest rest' _ h
  simp at h

theorem ite {p : Prop} [Decidable p] {read next : List Char → Except Error (α × List Char)}
    {read' next' : List Char → Except Error (β × List Char)} (hread : p → Agree back b read read')
    (hnext : ¬p → Agree back b next next') :
    Agree back b (fun cs => if p then read cs else next cs)
      fun cs => if p then read' cs else next' cs := by
  by_cases hp : p
  · simp only [if_pos hp]
    exact hread hp
  · simp only [if_neg hp]
    exact hnext hp

end Agree

/-! ## Blanks and comments -/

theorem Inert.ne (h : Inert c) {m : Char} (hm : m ∈ ['#', '[', ']', '-', '&', '~', '\\', '}']) :
    c ≠ m := by
  rintro rfl
  exact h.2 hm

theorem inert_plain : ∀ c ∈ ['(', '?', ':'], Inert c :=
  List.all_iff_forall_prop.1 (by decide)

theorem inert_named {name : List Char} (h : ∀ c ∈ name, Inert c) :
    ∀ c ∈ '(' :: '?' :: 'P' :: '<' :: (name ++ ['>']), Inert c := by
  have hmarks : ∀ c ∈ ['(', '?', 'P', '<', '>'], Inert c :=
    List.all_iff_forall_prop.1 (by decide)
  intro c hc
  by_cases hname : c ∈ name
  · exact h c hname
  · exact hmarks c (by simpa [hname] using hc)

theorem Inert.not_newline (h : Inert c) : (c != '\n') = true := by
  rw [bne_iff_ne]
  rintro rfl
  exact absurd h.1 (by decide)

theorem skipBlanks_inert_row {row : List Char} (h : ∀ c ∈ row, Inert c) (cs : List Char) :
    skipBlanks true (row ++ cs) = skipBlanks true cs := by
  induction row with
  | nil => rfl
  | cons c row ih =>
    obtain ⟨hc, hrow⟩ := List.forall_mem_cons.1 h
    rw [List.cons_append, skipBlanks, if_pos rfl, hc.not_newline]
    exact ih hrow

theorem endsGroup_of_blank (h : isBlank c) : endsGroup c = false := by
  have hparen : c ≠ ')' := by
    rintro rfl
    exact absurd h (by decide)
  have hbar : c ≠ '|' := by
    rintro rfl
    exact absurd h (by decide)
  simp [endsGroup, hparen, hbar]

theorem Renamed.skipBlanks (hback : Closing back) (h : Renamed back b cs cs') (inComment : Bool) :
    Renamed back (b && !inComment) (skipBlanks inComment cs) (skipBlanks inComment cs') := by
  induction h generalizing inComment with
  | done =>
    obtain ⟨tail, htail, hline⟩ := hback
    cases inComment with
    | true =>
      have hnone : Reader.skipBlanks true back = [] :=
        skipBlanks_comment (by rw [htail]; simp [hline])
      rw [hnone]
      exact .taken
    | false =>
      have hkeep : Reader.skipBlanks false back = back := by
        rw [htail]
        rfl
      rw [hkeep]
      exact .done
  | taken => exact .taken
  | @char b c cs cs' _ ih =>
    simp only [Reader.skipBlanks]
    split
    · -- a comment ends with its line, so that no group comes next
      rename_i hcomment
      have hends : (endsGroup c && !(c != '\n')) = false := by
        by_cases hc : c = '\n'
        · subst hc
          rfl
        · simp [hc]
      have hnext := ih (c != '\n')
      rw [hends] at hnext
      exact hnext.of_false
    · split
      · rename_i hblank
        have hnext := ih false
        rw [endsGroup_of_blank hblank] at hnext
        exact hnext.of_false
      · split
        · have hnext := ih true
          rw [Bool.not_true, Bool.and_false] at hnext
          exact hnext.of_false
        · rename_i hrest _ _ _
          exact .char hrest
  | @group name cs cs' hinert hunclosed hrest ih =>
    cases inComment with
    | true =>
      have hplain := skipBlanks_inert_row inert_plain cs
      have hnamed := skipBlanks_inert_row (inert_named hinert) cs'
      simp only [List.cons_append, List.nil_append, List.append_assoc] at hplain hnamed
      rw [hplain, hnamed]
      exact ih true
    | false => exact .group hinert hunclosed hrest

theorem Renamed.skip (extended : Bool) (hback : Closing back) (h : Renamed back b cs cs') :
    Renamed back b (skip extended cs) (skip extended cs') := by
  cases extended with
  | true =>
    have hskip := h.skipBlanks hback false
    rwa [Bool.not_false, Bool.and_true] at hskip
  | false => exact h

/-! ## Rows of characters -/

/-- A property of characters that end no group and begin none. -/
def StaysInside (p : Char → Bool) : Prop :=
  p ')' = false ∧ p '|' = false ∧ p '(' = false

instance (p : Char → Bool) : Decidable (StaysInside p) :=
  inferInstanceAs (Decidable (_ ∧ _ ∧ _))

theorem StaysInside.endsGroup {p : Char → Bool} (hp : StaysInside p) (hc : p c = true) :
    endsGroup c = false := by
  obtain ⟨hparen, hbar, -⟩ := hp
  have hne : ∀ d, p d = false → c ≠ d := by
    rintro d hd rfl
    rw [hd] at hc
    exact absurd hc (by decide)
  simp [Reader.endsGroup, hne _ hparen, hne _ hbar]

theorem Renamed.span {p : Char → Bool} (hback : Closing back) (hp : StaysInside p)
    (h : Renamed back b cs cs') :
    cs'.takeWhile p = cs.takeWhile p ∧ Renamed back b (cs.dropWhile p) (cs'.dropWhile p) := by
  have hstop : ∀ {c}, p c = false → ∀ cs : List Char,
      (c :: cs).takeWhile p = [] ∧ (c :: cs).dropWhile p = c :: cs := by
    intro c hc cs
    simp [hc]
  induction h with
  | done =>
    obtain ⟨tail, htail, -⟩ := hback
    obtain ⟨htake, hdrop⟩ := hstop hp.1 tail
    rw [← htail] at htake hdrop
    rw [htake, hdrop]
    exact ⟨rfl, .done⟩
  | taken => exact ⟨rfl, .taken⟩
  | @char b c cs cs' hrest ih =>
    cases hc : p c with
    | true =>
      obtain ⟨htake, hdrop⟩ := ih
      rw [hp.endsGroup hc] at hdrop
      rw [List.takeWhile_cons_of_pos hc, List.takeWhile_cons_of_pos hc, htake,
        List.dropWhile_cons_of_pos hc, List.dropWhile_cons_of_pos hc]
      exact ⟨rfl, hdrop.of_false⟩
    | false =>
      rw [(hstop hc cs).1, (hstop hc cs').1, (hstop hc cs).2, (hstop hc cs').2]
      exact ⟨rfl, .char hrest⟩
  | group hinert hunclosed hrest _ =>
    rw [(hstop hp.2.2 _).1, (hstop hp.2.2 _).1, (hstop hp.2.2 _).2, (hstop hp.2.2 _).2]
    exact ⟨rfl, .group hinert hunclosed hrest⟩

theorem Renamed.collect {p : Char → Bool} (hback : Closing back) (hp : StaysInside p)
    (h : Renamed back b cs cs') :
    Renamed back b (collect extended p cs).2 (collect extended p cs').2 := by
  induction hn : cs.length using Nat.strongRecOn generalizing b cs cs' with
  | ind n ih =>
    cases h with
    | done =>
      obtain ⟨tail, htail, -⟩ := hback
      have hstop : Reader.collect extended p back = ([], back) := by
        rw [htail, collect_cons, hp.1]
        rfl
      rw [hstop]
      exact .done
    | taken => exact .taken
    | @char _ c cs cs' hrest =>
      rw [collect_cons, collect_cons]
      split
      · rename_i hc
        rw [hp.endsGroup hc] at hrest
        have hskip := length_skip_le extended cs
        rw [List.length_cons] at hn
        exact (ih _ (by omega) (hrest.skip extended hback) rfl).of_false
      · exact .char hrest
    | group hinert hunclosed hrest =>
      rw [collect_cons, collect_cons, hp.2.2]
      exact .group hinert hunclosed hrest

theorem Inert.skip_cons (h : Inert c) (cs : List Char) : skip extended (c :: cs) = c :: cs := by
  cases extended with
  | true => simp [Reader.skip, skipBlanks, h.1, h.ne (m := '#') (by decide)]
  | false => rfl

theorem collect_inert_row {row : List Char} (h : ∀ c ∈ row, Inert c) (cs : List Char) :
    (collect extended (· != '}') (skip extended (row ++ cs))).2 =
      (collect extended (· != '}') (skip extended cs)).2 := by
  induction row with
  | nil => rfl
  | cons c row ih =>
    obtain ⟨hc, hrow⟩ := List.forall_mem_cons.1 h
    rw [List.cons_append, hc.skip_cons, collect_cons, if_pos (bne_iff_ne.2 (hc.ne (by decide)))]
    exact ih hrow

/-- A row in braces ends at the same brace, whatever the groups are called that it goes through. -/
theorem Renamed.collect_braces (hback : Closing back) (h : Renamed back b cs cs')
    (hcs : (Reader.collect extended (· != '}') cs).2 = c :: rest) :
    ∃ rest', (Reader.collect extended (· != '}') cs').2 = c :: rest' ∧
      Renamed back true rest rest' := by
  induction hn : cs.length using Nat.strongRecOn generalizing b cs cs' with
  | ind n ih =>
    cases h with
    | done => simp [Reader.collect, collectFor] at hcs
    | taken => simp [Reader.collect, collectFor] at hcs
    | @char _ d ds ds' hrest =>
      rw [collect_cons] at hcs ⊢
      split at hcs
      · rename_i hd
        have hskip := length_skip_le extended ds
        rw [List.length_cons] at hn
        rw [if_pos hd]
        exact ih _ (by omega) (hrest.skip extended hback) hcs rfl
      · rename_i hd
        obtain ⟨rfl, rfl⟩ := List.cons.inj hcs
        rw [if_neg hd]
        exact ⟨_, rfl, hrest.anywhere⟩
    | @group name ds ds' hinert hunclosed hrest =>
      have hplain := @collect_inert_row extended _ inert_plain ds
      have hnamed := @collect_inert_row extended _ (inert_named hinert) ds'
      simp only [List.cons_append, List.nil_append, List.append_assoc] at hplain hnamed
      have hparen : Inert '(' := inert_plain _ List.mem_cons_self
      rw [hparen.skip_cons] at hplain hnamed
      rw [hplain] at hcs
      rw [hnamed]
      have hskip := length_skip_le extended ds
      simp only [List.length_cons] at hn
      exact ih _ (by omega) (hrest.skip extended hback) hcs rfl

/-! ## Counts -/

theorem Renamed.skipInCount (hback : Closing back) (h : Renamed back b cs cs') :
    Renamed back b (skipInCount extended cs) (skipInCount extended cs') := by
  have hblank : StaysInside isBlank := by decide
  cases h with
  | done =>
    obtain ⟨tail, htail, -⟩ := hback
    have hkeep : Reader.skipInCount extended back = back := by
      simp [htail, Reader.skipInCount, hblank.1]
    rw [hkeep]
    exact .done
  | taken => exact .taken
  | @char _ c cs cs' hrest =>
    have hcs : Renamed back b (c :: cs) (c :: cs') := .char hrest
    simp only [Reader.skipInCount]
    split
    · split
      · have hskip := hcs.skipBlanks hback false
        rwa [Bool.not_false, Bool.and_true] at hskip
      · exact (hcs.span hback hblank).2
    · exact hcs
  | group hinert hunclosed hrest =>
    simp only [Reader.skipInCount, hblank.2.2]
    exact .group hinert hunclosed hrest

theorem rest_of_readCount {count : Option ℕ} (h : readCount extended cs = .ok (count, rest)) :
    rest = skipInCount extended (collect extended Char.isDigit (cs.dropWhile isBlank)).2 := by
  simp only [readCount] at h
  split at h
  · exact (Prod.mk.inj (Except.ok.inj h)).2.symm
  · split at h
    · exact (Prod.mk.inj (Except.ok.inj h)).2.symm
    · simp at h

theorem readCount_agree (hback : Closing back) :
    Agree back b (readCount extended) (readCount extended) := by
  have hblank : StaysInside isBlank := by decide
  have hdigit : StaysInside Char.isDigit := by decide
  intro cs cs' x x' rest rest' hcs h h'
  rw [rest_of_readCount h, rest_of_readCount h']
  exact (((hcs.span hback hblank).2.collect hback hdigit).skipInCount hback).anywhere

/-! ## Hexadecimal escapes -/

theorem readHexDigits_agree (hback : Closing back) (n : ℕ) :
    Agree back b (readHexDigits extended n) (readHexDigits extended n) := by
  induction n generalizing b with
  | zero => exact .keep [] []
  | succ n ih =>
    have hhex : StaysInside isHexDigit := by decide
    intro cs cs' x x' rest rest' hcs h h'
    cases hcs with
    | done | taken => simp [readHexDigits] at h
    | char hrest =>
      rw [readHexDigits] at h h'
      split at h
      · rename_i hc
        rw [if_pos hc] at h'
        obtain ⟨⟨ds, mid⟩, hds, h⟩ := bind_eq_ok.1 h
        obtain ⟨⟨ds', mid'⟩, hds', h'⟩ := bind_eq_ok.1 h'
        obtain ⟨-, rfl⟩ := Prod.mk.inj (Except.ok.inj h)
        obtain ⟨-, rfl⟩ := Prod.mk.inj (Except.ok.inj h')
        rw [hhex.endsGroup hc] at hrest
        exact ih _ _ _ _ _ _ (hrest.skip extended hback) hds hds'
      · simp at h
    | group _ _ _ =>
      rw [readHexDigits, hhex.2.2] at h
      simp at h

theorem readHexRow_agree (hback : Closing back) (width : ℕ) :
    Agree back false (readHexRow extended width) (readHexRow extended width) := by
  intro cs cs' x x' rest rest' hcs h h'
  by_cases hbrace : ∃ ds, cs = '{' :: ds
  · obtain ⟨ds, rfl⟩ := hbrace
    obtain ⟨ds', rfl, hds⟩ := hcs.exists_cons
    simp only [readHexRow] at h h'
    split at h
    · simp at h
    · rename_i hcollect
      obtain ⟨left', hcollect', hleft⟩ :=
        (hds.skip extended hback).collect_braces hback (congrArg Prod.snd hcollect)
      split at h
      · split at h'
        · simp at h'
        · rename_i heq
          rw [heq] at hcollect'
          obtain ⟨-, rfl⟩ := List.cons.inj hcollect'
          split at h'
          · obtain ⟨-, rfl⟩ := Prod.mk.inj (Except.ok.inj h)
            obtain ⟨-, rfl⟩ := Prod.mk.inj (Except.ok.inj h')
            exact hleft
          · simp at h'
      · simp at h
  · rw [not_exists] at hbrace
    have hdigits : ∀ {ds}, (∀ es, ds ≠ '{' :: es) →
        readHexRow extended width ds = readHexDigits extended width ds := by
      intro ds hds
      unfold readHexRow
      split
      · exact absurd rfl (hds _)
      · rfl
    rw [hdigits hbrace] at h
    rw [hdigits (hcs.ne_cons hback (by decide) hbrace)] at h'
    exact readHexDigits_agree hback width _ _ _ _ _ _ hcs h h'

theorem readHex_agree (hback : Closing back) (width : ℕ) :
    Agree back false (readHex extended width) (readHex extended width) := by
  have hrest : ∀ {cs c rest}, readHex extended width cs = .ok (c, rest) →
      ∃ ds, readHexRow extended width (skip extended cs) = .ok (ds, rest) := by
    intro cs c rest h
    obtain ⟨⟨ds, mid⟩, hds, h⟩ := bind_eq_ok.1 h
    dsimp only at h
    split at h
    · simp at h
    · split at h
      · obtain ⟨-, rfl⟩ := Prod.mk.inj (Except.ok.inj h)
        exact ⟨ds, hds⟩
      · simp at h
  intro cs cs' x x' rest rest' hcs h h'
  obtain ⟨ds, hds⟩ := hrest h
  obtain ⟨ds', hds'⟩ := hrest h'
  exact readHexRow_agree hback width _ _ _ _ _ _ (hcs.skip extended hback) hds hds'

end PatternGrammar.Regex.Reader
