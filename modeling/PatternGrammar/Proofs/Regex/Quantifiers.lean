import PatternGrammar.Proofs.Description.Counts
import PatternGrammar.Proofs.Regex.Assembly

/-!
# Quantifiers behind groups

The mark or the counts that a quantifier is written with are read as its bounds, in regular
expressions as in rules, and repeat the group in front of them (`Reader.Finishes.quantified`).
-/

namespace PatternGrammar.Regex.Reader

open PatternGrammar.Text (isBlank)
open PatternGrammar.Description (boundDigits isDigit_of_mem_boundDigits boundDigits_ne_nil
  highDigits toList_boundsText)

variable {back : List Char}

/-! ## Counts -/

theorem collect_append_stop {p : Char → Bool} {ds rest : List Char} (hds : ∀ c ∈ ds, p c)
    (hrest : ∀ c ∈ rest.head?, p c = false) : collect false p (ds ++ rest) = (ds, rest) := by
  induction ds with
  | nil =>
    cases rest with
    | nil => rfl
    | cons c rest =>
      rw [List.nil_append, collect_cons, hrest c rfl]
      rfl
  | cons d ds ih =>
    obtain ⟨hd, hds⟩ := List.forall_mem_cons.1 hds
    rw [List.cons_append, collect_cons, if_pos hd]
    simp [skip, ih hds]

theorem isBlank_of_isDigit {c : Char} (h : c.isDigit) : isBlank c = false :=
  Text.isBlank_of_isNameChar (by simp [Text.isNameChar, Char.isAlphanum, h])

theorem readCount_boundDigits (n : UInt32) {c : Char} (hblank : isBlank c = false)
    (hdigit : c.isDigit = false) (cs : List Char) :
    readCount false (boundDigits n ++ c :: cs) = .ok (some n.toNat, c :: cs) := by
  have hfirst : (boundDigits n ++ c :: cs).dropWhile isBlank = boundDigits n ++ c :: cs := by
    refine Text.dropWhile_eq_self fun d hd => ?_
    cases hdigits : boundDigits n with
    | nil => exact absurd hdigits (boundDigits_ne_nil n)
    | cons e es =>
      rw [hdigits] at hd
      obtain rfl : e = d := by simpa using hd
      exact isBlank_of_isDigit (isDigit_of_mem_boundDigits (n := n) e (by simp [hdigits]))
  have hvalue : decimalValue (boundDigits n) = n.toNat := by
    rw [decimalValue, boundDigits, ← Nat.ofDigitChars_eq_foldl, Nat.ofDigitChars_ten_toDigits]
  have hmax : n.toNat ≤ maxCount := Nat.le_of_lt_succ n.toNat_lt
  have hstop : ∀ d ∈ (c :: cs).head?, d.isDigit = false := by simpa using hdigit
  rw [readCount, hfirst, collect_append_stop isDigit_of_mem_boundDigits hstop]
  simp [skipInCount, hblank, boundDigits_ne_nil n, hvalue, hmax]

theorem readCounts_exactly (n : UInt32) (hback : ∀ ds, back ≠ '?' :: ds) :
    readCounts false (boundDigits n ++ '}' :: back) =
      .ok ((n.toNat, some n.toNat, true), back) := by
  have hlower := readCount_boundDigits n (c := '}') (by decide) (by decide) back
  simp [readCounts, skip, hlower, readUpperCount, readGreed_keep hback, bind, Except.bind, pure,
    Except.pure]

theorem readCounts_atLeast (n : UInt32) (hback : ∀ ds, back ≠ '?' :: ds) :
    readCounts false (boundDigits n ++ ',' :: '}' :: back) = .ok ((n.toNat, none, true), back) := by
  have hlower := readCount_boundDigits n (c := ',') (by decide) (by decide) ('}' :: back)
  simp [readCounts, skip, hlower, readUpperCount, readGreed_keep hback, bind, Except.bind, pure,
    Except.pure]

theorem readCounts_between {min max : UInt32} (hle : min ≤ max) (hback : ∀ ds, back ≠ '?' :: ds) :
    readCounts false (boundDigits min ++ ',' :: (boundDigits max ++ '}' :: back)) =
      .ok ((min.toNat, some max.toNat, true), back) := by
  have hlower := readCount_boundDigits min (c := ',') (by decide) (by decide)
    (boundDigits max ++ '}' :: back)
  have hread := readCount_boundDigits max (c := '}') (by decide) (by decide) back
  have hupper : readUpperCount false (some min.toNat) (',' :: (boundDigits max ++ '}' :: back)) =
      .ok (some max.toNat, '}' :: back) := by
    unfold readUpperCount
    simp only [skip, Bool.false_eq_true, if_false]
    split
    · rename_i ds heq
      cases hdigits : boundDigits max with
      | nil => exact absurd hdigits (boundDigits_ne_nil max)
      | cons d es =>
        rw [hdigits] at heq
        have hd := isDigit_of_mem_boundDigits (n := max) d (by simp [hdigits])
        rw [(List.cons.inj heq).1] at hd
        simp at hd
    · rw [hread]
  simp [readCounts, skip, hlower, hupper, readGreed_keep hback, UInt32.le_iff_toNat_le.1 hle,
    bind, Except.bind, pure, Except.pure]

/-! ## Quantifiers -/

/-- The bounds of the quantifier are in order. -/
def Ordered (q : Quantifier) : Prop := ∀ m ∈ q.bounds.2, q.bounds.1 ≤ m

theorem readToken_counts {cs rest : List Char} {min : ℕ} {max : Option ℕ} {greedy : Bool}
    (h : readCounts false cs = .ok ((min, max, greedy), rest)) :
    readToken false ('{' :: cs) = .ok (.repetition min max greedy, rest) := by
  simp [readToken, h, bind, Except.bind, pure, Except.pure]

theorem readToken_quantifier {q : Quantifier} (hq : Ordered q) (hback : ∀ ds, back ≠ '?' :: ds) :
    readToken false (q.text.toList ++ back) =
      .ok (.repetition q.bounds.1.toNat (q.bounds.2.map UInt32.toNat) true, back) := by
  cases q with
  | optional => simp [Quantifier.text, readToken, readGreed_keep hback, Quantifier.bounds]
  | zeroOrMore => simp [Quantifier.text, readToken, readGreed_keep hback, Quantifier.bounds]
  | oneOrMore => simp [Quantifier.text, readToken, readGreed_keep hback, Quantifier.bounds]
  | exactly n =>
    have htext : (Quantifier.exactly n).text.toList ++ back =
        '{' :: (boundDigits n ++ '}' :: back) := by
      simp [Quantifier.text, boundDigits]
    rw [htext, readToken_counts (readCounts_exactly n hback)]
    rfl
  | atLeast n =>
    have htext : (Quantifier.atLeast n).text.toList ++ back =
        '{' :: (boundDigits n ++ ',' :: '}' :: back) := by
      rw [Quantifier.text, toList_boundsText]
      simp [highDigits]
    rw [htext, readToken_counts (readCounts_atLeast n hback)]
    rfl
  | between min max =>
    have htext : (Quantifier.between min max).text.toList ++ back =
        '{' :: (boundDigits min ++ ',' :: (boundDigits max ++ '}' :: back)) := by
      rw [Quantifier.text, toList_boundsText]
      simp [highDigits]
    have hle : min ≤ max := hq max rfl
    rw [htext, readToken_counts (readCounts_between hle hback)]
    rfl

theorem newline_not_mem_quantifier (q : Quantifier) : '\n' ∉ q.text.toList := by
  have hdigits : ∀ n : UInt32, '\n' ∉ boundDigits n := fun n hmem => by
    simpa using isDigit_of_mem_boundDigits _ hmem
  cases q with
  | exactly n => simpa [Quantifier.text, boundDigits] using hdigits n
  | atLeast n =>
    rw [Quantifier.text, toList_boundsText]
    simp [highDigits, hdigits]
  | between min max =>
    rw [Quantifier.text, toList_boundsText]
    simp [highDigits, hdigits]
  | _ => decide

/-- A quantifier behind a group repeats the group. -/
theorem Finishes.quantified {st fin : State} {q : Quantifier} {kind : GroupKind} {body : Expr}
    {items : List Expr} (hq : Ordered q) (hback : ∀ ds, back ≠ '?' :: ds)
    (hextended : st.extended = false) (hitems : st.items = .group kind body :: items)
    (h : Finishes st (q.text.toList ++ back) fin) :
    Finishes { st with
      items := .repeated (.group kind body) q.bounds.1.toNat (q.bounds.2.map UInt32.toNat) true ::
        items } back fin := by
  have htoken := readToken_quantifier hq hback
  cases htext : q.text.toList ++ back with
  | nil =>
    rw [htext] at htoken
    simp [readToken] at htoken
  | cons c cs =>
    rw [htext] at h htoken
    obtain ⟨st₁, htake, h⟩ := h.token hextended htoken
    simp only [State.take, State.repeatLast, hitems] at htake
    obtain rfl := Except.ok.inj htake
    exact h

end PatternGrammar.Regex.Reader
