import Mathlib.Algebra.Group.Nat.Defs
import Mathlib.Data.Nat.Notation
import PatternGrammar.Description.Reader
import PatternGrammar.Proofs.Text.Trimming

/-!
# Counts of repetitions

What follows the name of a repetition is a mark, or one or two numbers in braces (`Counted`). A count
is read from exactly these texts, and stands for the numbers that its digits write if they fit into
32 bits. Bounds are written as such a text: as a mark where there is one for them, and else in braces.

Main results:

* `Counted.exists_count` and `exists_counted`: counts are read from these texts, and from no others.
* `counted_countText`: bounds are written as a count that stands for them.
-/

namespace PatternGrammar.Description

open PatternGrammar.Text (takeWhile_append_stop dropWhile_append_stop isNameChar)
open Nat (ofDigitChars)

/-! ## Numbers -/

/-- Decimal digits, at least one of them. -/
def IsNumeral (ds : List Char) : Prop :=
  ds ≠ [] ∧ ∀ c ∈ ds, c.isDigit

theorem decimalValue_eq (ds : List Char) : decimalValue ds = ofDigitChars 10 ds 0 :=
  (Nat.ofDigitChars_eq_foldl).symm

/-- A bound is the number that its digits write. -/
theorem readBound_eq_ok_iff {ds : List Char} {n : UInt32} :
    readBound ds = .ok n ↔ n.toNat = ofDigitChars 10 ds 0 := by
  rw [readBound, decimalValue_eq]
  constructor
  · intro h
    split at h
    · rename_i hfits
      rw [← Except.ok.inj h, UInt32.toNat_ofNat_of_lt' hfits]
    · simp at h
  · intro h
    rw [← h, if_pos n.toNat_lt, UInt32.ofNat_toNat]

/-- Digits are out of range iff the number does not fit into 32 bits. -/
theorem readBound_eq_error_iff {ds : List Char} {e : DescriptionError} :
    readBound ds = .error e ↔
      2 ^ 32 ≤ ofDigitChars 10 ds 0 ∧ e = .boundOutOfRange (String.ofList ds) := by
  have hsize : UInt32.size = 2 ^ 32 := rfl
  rw [readBound, decimalValue_eq, hsize]
  constructor
  · intro h
    split at h
    · simp at h
    · rename_i hlarge
      exact ⟨by omega, (Except.error.inj h).symm⟩
  · rintro ⟨hlarge, rfl⟩
    rw [if_neg (by omega)]

/-! ## Counts that are read -/

/-- What follows the name of a repetition, with the digits of the lower and the upper bound that it
stands for. -/
inductive Counted : List Char → List Char → Option (List Char) → Prop where
  | optional : Counted ['?'] ['0'] (some ['1'])
  | zeroOrMore : Counted ['*'] ['0'] none
  | oneOrMore : Counted ['+'] ['1'] none
  | exactly {n : List Char} (hn : IsNumeral n) : Counted ('{' :: (n ++ ['}'])) n (some n)
  | atLeast {low : List Char} (hlow : IsNumeral low) :
      Counted ('{' :: (low ++ [',', '}'])) low none
  | between {low high : List Char} (hlow : IsNumeral low) (hhigh : IsNumeral high) :
      Counted ('{' :: (low ++ ',' :: (high ++ ['}']))) low (some high)

/-- The bounds that digits write, or the error that the first of them is out of range. -/
def boundsOf (low : List Char) : Option (List Char) →
    Except DescriptionError (UInt32 × Option UInt32)
  | none => do return (← readBound low, none)
  | some high => do return (← readBound low, some (← readBound high))

theorem boundsOf_eq_ok {low : List Char} {high : Option (List Char)} {min : UInt32}
    {max : Option UInt32} (hmin : min.toNat = ofDigitChars 10 low 0)
    (hmax : max.map UInt32.toNat = high.map (ofDigitChars 10 · 0)) :
    boundsOf low high = .ok (min, max) := by
  have hlow := readBound_eq_ok_iff.2 hmin
  cases high with
  | none =>
    obtain rfl := Option.map_eq_none_iff.1 hmax
    rw [boundsOf, hlow]
    rfl
  | some high =>
    obtain ⟨n, rfl, hn⟩ := Option.map_eq_some_iff.1 hmax
    rw [boundsOf, hlow, readBound_eq_ok_iff.2 hn]
    rfl

theorem boundsOf_low {low : List Char} {high : Option (List Char)}
    (hlow : 2 ^ 32 ≤ ofDigitChars 10 low 0) :
    boundsOf low high = .error (.boundOutOfRange (String.ofList low)) := by
  have hlow := readBound_eq_error_iff.2 ⟨hlow, rfl⟩
  cases high with
  | none =>
    rw [boundsOf, hlow]
    rfl
  | some high =>
    rw [boundsOf, hlow]
    rfl

theorem boundsOf_high {low high : List Char} (hlow : ofDigitChars 10 low 0 < 2 ^ 32)
    (hhigh : 2 ^ 32 ≤ ofDigitChars 10 high 0) :
    boundsOf low (some high) = .error (.boundOutOfRange (String.ofList high)) := by
  have hmin : (UInt32.ofNat (ofDigitChars 10 low 0)).toNat = ofDigitChars 10 low 0 :=
    UInt32.toNat_ofNat_of_lt' hlow
  rw [boundsOf, readBound_eq_ok_iff.2 hmin, readBound_eq_error_iff.2 ⟨hhigh, rfl⟩]
  rfl

theorem readCounts?_exactly {low : List Char} (hlow : IsNumeral low) :
    readCounts? (low ++ ['}']) = some (.counts low none) := by
  have hstop : ∀ c ∈ ['}'].head?, c.isDigit = false := by simp
  rw [readCounts?, takeWhile_append_stop hlow.2 hstop, dropWhile_append_stop hlow.2 hstop]
  simp [hlow.1]

theorem readCounts?_between {low high : List Char} (hlow : IsNumeral low)
    (hhigh : ∀ c ∈ high, c.isDigit) :
    readCounts? (low ++ ',' :: (high ++ ['}'])) = some (.counts low (some high)) := by
  have hcomma : ∀ c ∈ (',' :: (high ++ ['}'])).head?, c.isDigit = false := by simp
  have hbrace : ∀ c ∈ ['}'].head?, c.isDigit = false := by simp
  rw [readCounts?, takeWhile_append_stop hlow.2 hcomma, dropWhile_append_stop hlow.2 hcomma]
  simp [hlow.1, takeWhile_append_stop hhigh hbrace, dropWhile_append_stop hhigh hbrace]

/-- Nothing else is read as counts. -/
theorem exists_of_readCounts? {cs : List Char} {count : Count} (h : readCounts? cs = some count) :
    ∃ low, IsNumeral low ∧ (cs = low ++ ['}'] ∨
      ∃ high, (∀ c ∈ high, c.isDigit) ∧ cs = low ++ ',' :: (high ++ ['}'])) := by
  have hcs := List.takeWhile_append_dropWhile (p := Char.isDigit) (l := cs)
  have hdigits : ∀ cs : List Char, ∀ c ∈ cs.takeWhile Char.isDigit, c.isDigit := fun cs =>
    List.all_eq_true.1 List.all_takeWhile
  unfold readCounts? at h
  dsimp only at h
  split at h
  · simp at h
  · rename_i hlow
    refine ⟨cs.takeWhile Char.isDigit, ⟨by simpa using hlow, hdigits cs⟩, ?_⟩
    split at h
    · rename_i hdrop
      rw [hdrop] at hcs
      exact .inl hcs.symm
    · rename_i rest hdrop
      split at h
      · rename_i hclose
        have hrest := List.takeWhile_append_dropWhile (p := Char.isDigit) (l := rest)
        rw [hclose] at hrest
        refine .inr ⟨rest.takeWhile Char.isDigit, hdigits rest, ?_⟩
        rw [hrest, ← hdrop, hcs]
      · simp at h
    · simp at h

/-- A count is read as the bounds that its digits write. -/
theorem Counted.exists_count {text low : List Char} {high : Option (List Char)}
    (h : Counted text low high) :
    ∃ count, readCount? text = some count ∧ count.bounds = boundsOf low high := by
  cases h with
  | optional => exact ⟨.mark 0 (some 1), rfl, rfl⟩
  | zeroOrMore => exact ⟨.mark 0 none, rfl, rfl⟩
  | oneOrMore => exact ⟨.mark 1 none, rfl, rfl⟩
  | exactly hn =>
    refine ⟨.counts low none, readCounts?_exactly hn, ?_⟩
    rw [Count.bounds, boundsOf]
    cases readBound low <;> rfl
  | atLeast hlow =>
    refine ⟨.counts low (some []), ?_, by rw [Count.bounds, boundsOf]⟩
    have hhigh : ∀ c ∈ ([] : List Char), c.isDigit := by simp
    exact readCounts?_between hlow hhigh
  | between hlow hhigh =>
    rename_i high
    refine ⟨.counts low (some high), readCounts?_between hlow hhigh.2, ?_⟩
    obtain ⟨c, cs, rfl⟩ := List.exists_cons_of_ne_nil hhigh.1
    rw [Count.bounds, boundsOf]
    simp

/-- Nothing else is read as a count. -/
theorem exists_counted {text : List Char} {count : Count} (h : readCount? text = some count) :
    ∃ low high, Counted text low high := by
  unfold readCount? at h
  split at h
  · exact ⟨_, _, .optional⟩
  · exact ⟨_, _, .zeroOrMore⟩
  · exact ⟨_, _, .oneOrMore⟩
  · obtain ⟨low, hlow, rfl | ⟨high, hhigh, rfl⟩⟩ := exists_of_readCounts? h
    · exact ⟨low, some low, .exactly hlow⟩
    · cases high with
      | nil => exact ⟨low, none, .atLeast hlow⟩
      | cons c high => exact ⟨low, some (c :: high), .between hlow ⟨List.cons_ne_nil c high, hhigh⟩⟩
  · simp at h

/-- A count begins with a mark or a brace. -/
theorem Counted.exists_head {text low : List Char} {high : Option (List Char)}
    (h : Counted text low high) : ∃ c rest, text = c :: rest ∧ c ∈ ['?', '*', '+', '{'] := by
  cases h with
  | optional => exact ⟨'?', [], rfl, by simp⟩
  | zeroOrMore => exact ⟨'*', [], rfl, by simp⟩
  | oneOrMore => exact ⟨'+', [], rfl, by simp⟩
  | exactly _ => exact ⟨'{', _, rfl, by simp⟩
  | atLeast _ => exact ⟨'{', _, rfl, by simp⟩
  | between _ _ => exact ⟨'{', _, rfl, by simp⟩

theorem Counted.isNameChar_head {text low : List Char} {high : Option (List Char)}
    (h : Counted text low high) : ∀ c ∈ text.head?, isNameChar c = false := by
  obtain ⟨d, rest, rfl, hd⟩ := h.exists_head
  rintro c ⟨⟩
  simp only [List.mem_cons, List.not_mem_nil, or_false] at hd
  rcases hd with rfl | rfl | rfl | rfl <;> rfl

/-! ## Counts that are written -/

/-- How a repetition writes its bounds. -/
def countText (min : UInt32) (max : Option UInt32) : String :=
  (Quantifier.ofBounds? min max).elim (Quantifier.boundsText min max) Quantifier.text

/-- The decimal digits of a bound. -/
def boundDigits (n : UInt32) : List Char := Nat.toDigits 10 n.toNat

theorem isDigit_of_mem_boundDigits {n : UInt32} : ∀ c ∈ boundDigits n, c.isDigit := fun _ hc =>
  Nat.isDigit_of_mem_toDigits (by decide) (by decide) hc

theorem boundDigits_ne_nil (n : UInt32) : boundDigits n ≠ [] := Nat.toDigits_ne_nil

theorem isNumeral_boundDigits (n : UInt32) : IsNumeral (boundDigits n) :=
  ⟨boundDigits_ne_nil n, isDigit_of_mem_boundDigits⟩

theorem ofDigitChars_boundDigits (n : UInt32) : ofDigitChars 10 (boundDigits n) 0 = n.toNat :=
  Nat.ofDigitChars_ten_toDigits

/-- The digits of an upper bound, none where it is missing. -/
def highDigits (max : Option UInt32) : List Char := max.elim [] boundDigits

theorem toList_boundsText (min : UInt32) (max : Option UInt32) :
    (Quantifier.boundsText min max).toList =
      '{' :: (boundDigits min ++ ',' :: (highDigits max ++ ['}'])) := by
  cases max <;>
    simp [Quantifier.boundsText, boundDigits, highDigits]

/-- Bounds in full are a count that stands for them. -/
theorem counted_boundsText (min : UInt32) (max : Option UInt32) :
    ∃ low high, Counted (Quantifier.boundsText min max).toList low high ∧
      min.toNat = ofDigitChars 10 low 0 ∧
        max.map UInt32.toNat = high.map (ofDigitChars 10 · 0) := by
  have hlow := isNumeral_boundDigits min
  have hmin := (ofDigitChars_boundDigits min).symm
  rw [toList_boundsText]
  cases max with
  | none => exact ⟨boundDigits min, none, .atLeast hlow, hmin, rfl⟩
  | some max =>
    have hmax := congrArg some (ofDigitChars_boundDigits max).symm
    exact ⟨boundDigits min, some (boundDigits max), .between hlow (isNumeral_boundDigits max),
      hmin, hmax⟩

theorem bounds_of_ofBounds? {min : UInt32} {max : Option UInt32} {q : Quantifier}
    (h : Quantifier.ofBounds? min max = some q) : q.bounds = (min, max) := by
  cases max with
  | none =>
    rw [Quantifier.ofBounds?] at h
    split at h
    · rename_i hzero
      obtain rfl := Option.some.inj h
      rw [hzero, Quantifier.bounds]
    · split at h
      · rename_i hone
        obtain rfl := Option.some.inj h
        rw [hone, Quantifier.bounds]
      · obtain rfl := Option.some.inj h
        rfl
  | some max =>
    rw [Quantifier.ofBounds?] at h
    split at h
    · simp at h
    · split at h
      · rename_i hoptional
        obtain rfl := Option.some.inj h
        rw [hoptional.1, hoptional.2, Quantifier.bounds]
      · split at h
        · rename_i hexact
          obtain rfl := Option.some.inj h
          rw [← hexact, Quantifier.bounds]
        · obtain rfl := Option.some.inj h
          rfl

/-- What is written for bounds is a count that stands for them. -/
theorem counted_countText (min : UInt32) (max : Option UInt32) :
    ∃ low high, Counted (countText min max).toList low high ∧
      min.toNat = ofDigitChars 10 low 0 ∧
        max.map UInt32.toNat = high.map (ofDigitChars 10 · 0) := by
  unfold countText
  cases hquantifier : Quantifier.ofBounds? min max with
  | none => exact counted_boundsText min max
  | some q =>
    have hbounds := bounds_of_ofBounds? hquantifier
    cases q with
    | optional =>
      obtain ⟨rfl, rfl⟩ := Prod.mk.inj hbounds
      exact ⟨['0'], some ['1'], .optional, rfl, rfl⟩
    | zeroOrMore =>
      obtain ⟨rfl, rfl⟩ := Prod.mk.inj hbounds
      exact ⟨['0'], none, .zeroOrMore, rfl, rfl⟩
    | oneOrMore =>
      obtain ⟨rfl, rfl⟩ := Prod.mk.inj hbounds
      exact ⟨['1'], none, .oneOrMore, rfl, rfl⟩
    | exactly n =>
      obtain ⟨rfl, rfl⟩ := Prod.mk.inj hbounds
      have htext : (Quantifier.exactly n).text.toList = '{' :: (boundDigits n ++ ['}']) := by
        simp [Quantifier.text, boundDigits]
      have hn := (ofDigitChars_boundDigits n).symm
      refine ⟨boundDigits n, some (boundDigits n), ?_, hn, congrArg some hn⟩
      rw [Option.elim, htext]
      exact .exactly (isNumeral_boundDigits n)
    | atLeast n =>
      obtain ⟨rfl, rfl⟩ := Prod.mk.inj hbounds
      exact counted_boundsText n none
    | between min' max' =>
      obtain ⟨rfl, rfl⟩ := Prod.mk.inj hbounds
      exact counted_boundsText min' (some max')

end PatternGrammar.Description
