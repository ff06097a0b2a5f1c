import Mathlib.Data.Nat.Notation
import PatternGrammar.Regex.Place
import PatternGrammar.Regex.Pattern

/-!
# What patterns match

`Pattern.Matches` says from where to where a pattern can match in a text, and what its groups record
on the way. It follows the syntax of the pattern, without a program and without a preference between
the ways to match.

Main results:

* `Pattern.Matches.extends`: a match goes forward, and each group that it records has both of its
  ends, in order and between the ends of the match.
* `Pattern.Matches.place_le`: a match stays inside of the text.
-/

namespace PatternGrammar.Regex

/-! ## Relations step by step -/

/-- `n` steps of a relation, one after another. -/
def Times {α : Type} (R : α → α → Prop) : ℕ → α → α → Prop
  | 0, a, b => a = b
  | n + 1, a, b => ∃ m, R a m ∧ Times R n m b

theorem Times.add {α : Type} {R : α → α → Prop} {m n : ℕ} {a b c : α} (hab : Times R m a b)
    (hbc : Times R n b c) : Times R (m + n) a c := by
  induction m generalizing a with
  | zero =>
    obtain rfl : a = b := hab
    rwa [Nat.zero_add]
  | succ m ih =>
    obtain ⟨d, had, hdb⟩ := hab
    rw [Nat.add_right_comm]
    exact ⟨d, had, ih hdb⟩

theorem Times.split {α : Type} {R : α → α → Prop} {m n : ℕ} {a c : α} (h : Times R (m + n) a c) :
    ∃ b, Times R m a b ∧ Times R n b c := by
  induction m generalizing a with
  | zero =>
    rw [Nat.zero_add] at h
    exact ⟨a, rfl, h⟩
  | succ m ih =>
    rw [Nat.add_right_comm] at h
    obtain ⟨d, had, hdc⟩ := h
    obtain ⟨b, hdb, hbc⟩ := ih hdc
    exact ⟨b, ⟨d, had, hdb⟩, hbc⟩

/-- What holds between a point and itself and goes on over each step holds over any number of
steps. -/
theorem Times.trans_of {α : Type} {R Q : α → α → Prop} (hrefl : ∀ a, Q a a)
    (hstep : ∀ a b c, R a b → Q b c → Q a c) {n : ℕ} {a b : α} (hab : Times R n a b) : Q a b := by
  induction n generalizing a with
  | zero =>
    obtain rfl : a = b := hab
    exact hrefl a
  | succ n ih =>
    obtain ⟨m, ham, hmb⟩ := hab
    exact hstep a m b ham (ih hmb)

/-! ## Matching -/

/-- A place in a text, with the places that were recorded on the way to it, the last one first. -/
structure Cursor where
  place : ℕ
  saved : List (ℕ × ℕ)

namespace Cursor

/-- The cursor `n` characters further on. -/
def skip (a : Cursor) (n : ℕ) : Cursor := { a with place := a.place + n }

/-- The cursor with its place recorded in a slot. -/
def record (a : Cursor) (slot : ℕ) : Cursor := { a with saved := (slot, a.place) :: a.saved }

end Cursor

/-- Whether a number of repetitions is between bounds. Where the upper bound is below the lower one,
only the lower one counts. -/
def InBounds (low : ℕ) (high : Option ℕ) (k : ℕ) : Prop :=
  low ≤ k ∧ ∀ m ∈ high, k ≤ max low m

/-- The pattern can match from the first cursor to the second. -/
def Pattern.Matches (text : Array Char) : Pattern → Cursor → Cursor → Prop
  | .empty, a, b => a = b
  | .literal cs, a, b => cs <+: text.toList.drop a.place ∧ b = a.skip cs.length
  | .chars set _, a, b => ∃ c, text[a.place]? = some c ∧ set.contains c ∧ b = a.skip 1
  | .look l, a, b => l.holds text a.place ∧ a = b
  | .seq first rest, a, b => ∃ m, first.Matches text a m ∧ rest.Matches text m b
  | .choice first rest, a, b => first.Matches text a b ∨ rest.Matches text a b
  | .repeated body min max _, a, b => ∃ k, InBounds min max k ∧ Times (body.Matches text) k a b
  | .capture index body, a, b =>
    ∃ m, body.Matches text (a.record (2 * index)) m ∧ b = m.record (2 * index + 1)

/-! ## Where matches end -/

theorem Pattern.Matches.place_le {text : Array Char} {p : Pattern} {a b : Cursor}
    (h : p.Matches text a b) (ha : a.place ≤ text.size) : b.place ≤ text.size := by
  induction p generalizing a b with
  | empty => obtain rfl : a = b := h; exact ha
  | literal cs =>
    obtain ⟨hpre, rfl⟩ := h
    have := hpre.length_le
    simp only [List.length_drop, Array.length_toList] at this
    simp only [Cursor.skip]
    omega
  | chars set _ =>
    obtain ⟨c, hc, -, rfl⟩ := h
    have := (Array.getElem?_eq_some_iff.1 hc).1
    exact this
  | look l => obtain ⟨-, rfl⟩ := h; exact ha
  | seq first rest ihf ihr =>
    obtain ⟨m, hm, hb⟩ := h
    exact ihr hb (ihf hm ha)
  | choice first rest ihf ihr =>
    rcases h with h | h
    · exact ihf h ha
    · exact ihr h ha
  | «repeated» body min max greedy ih =>
    obtain ⟨k, -, hk⟩ := h
    exact Times.trans_of (Q := fun a b => a.place ≤ text.size → b.place ≤ text.size)
      (fun _ h => h) (fun _ _ _ hab hbc ha => hbc (ih hab ha)) hk ha
  | capture index body ih =>
    obtain ⟨m, hm, rfl⟩ := h
    exact ih (b := m) hm ha

/-! ## What matches record -/

/-- A group is recorded with both of its ends, in order and between two places, or not at all. -/
def GroupBetween (low high : ℕ) (saved : List (ℕ × ℕ)) (index : ℕ) : Prop :=
  match saved.lookup (2 * index), saved.lookup (2 * index + 1) with
  | none, none => True
  | some x, some y => low ≤ x ∧ x ≤ y ∧ y ≤ high
  | _, _ => False

/-- The second cursor lies behind the first one, and each group that was recorded in between lies in
between. -/
def Cursor.Extends (a b : Cursor) : Prop :=
  a.place ≤ b.place ∧
    ∃ new, b.saved = new ++ a.saved ∧ ∀ index, GroupBetween a.place b.place new index

theorem Cursor.Extends.refl (a : Cursor) : a.Extends a :=
  ⟨Nat.le_refl _, [], rfl, fun _ => trivial⟩

theorem GroupBetween.append {low mid high : ℕ} {front back : List (ℕ × ℕ)} {index : ℕ}
    (hlow : low ≤ mid) (hhigh : mid ≤ high) (hfront : GroupBetween mid high front index)
    (hback : GroupBetween low mid back index) : GroupBetween low high (front ++ back) index := by
  unfold GroupBetween at *
  simp only [List.lookup_append]
  split at hfront
  · rename_i hx hy
    simp only [hx, hy, Option.none_or]
    split at hback
    · trivial
    · omega
    · exact hback.elim
  · rename_i hx hy
    simp only [hx, hy, Option.some_or]
    omega
  · exact hfront.elim

theorem Cursor.Extends.trans {a b c : Cursor} (hab : a.Extends b) (hbc : b.Extends c) :
    a.Extends c := by
  obtain ⟨hle, new, hnew, hgroups⟩ := hab
  obtain ⟨hle', new', hnew', hgroups'⟩ := hbc
  exact ⟨Nat.le_trans hle hle', new' ++ new, by rw [hnew', hnew, List.append_assoc],
    fun index => (hgroups' index).append hle hle' (hgroups index)⟩

theorem Cursor.extends_skip (a : Cursor) (n : ℕ) : a.Extends (a.skip n) :=
  ⟨Nat.le_add_right _ _, [], rfl, fun _ => trivial⟩

/-- What is recorded between the two ends of a group, together with these ends. -/
theorem Cursor.Extends.capture {a m : Cursor} {index : ℕ}
    (h : (a.record (2 * index)).Extends m) : a.Extends (m.record (2 * index + 1)) := by
  obtain ⟨hle, new, hnew, hgroups⟩ := h
  refine ⟨hle, (2 * index + 1, m.place) :: new ++ [(2 * index, a.place)], ?_, fun i => ?_⟩
  · simp [record, hnew]
  · have hi := hgroups i
    unfold GroupBetween at *
    simp only [record] at hle hi ⊢
    by_cases heq : i = index
    · subst heq
      have h1 : (2 * i == 2 * i + 1) = false := by simp
      simp only [List.cons_append, List.lookup_cons, h1, beq_self_eq_true, List.lookup_append]
      split at hi
      · rename_i hx hy
        simp only [hx, Option.none_or]
        omega
      · rename_i hx hy
        simp only [hx, Option.some_or]
        omega
      · exact hi.elim
    · have h1 : (2 * i == 2 * index + 1) = false := by simp; omega
      have h2 : (2 * i + 1 == 2 * index + 1) = false := by simp; omega
      have h3 : (2 * i == 2 * index) = false := by simp; omega
      have h4 : (2 * i + 1 == 2 * index) = false := by simp; omega
      simpa only [List.cons_append, List.lookup_cons, h1, h2, h3, h4, List.lookup_append,
        List.lookup_nil, Option.or_none] using hi

theorem Pattern.Matches.extends {text : Array Char} {p : Pattern} {a b : Cursor}
    (h : p.Matches text a b) : a.Extends b := by
  induction p generalizing a b with
  | empty => obtain rfl : a = b := h; exact .refl a
  | literal cs => obtain ⟨-, rfl⟩ := h; exact a.extends_skip _
  | chars set _ => obtain ⟨c, -, -, rfl⟩ := h; exact a.extends_skip 1
  | look l => obtain ⟨-, rfl⟩ := h; exact .refl a
  | seq first rest ihf ihr =>
    obtain ⟨m, hm, hb⟩ := h
    exact (ihf hm).trans (ihr hb)
  | choice first rest ihf ihr =>
    rcases h with h | h
    · exact ihf h
    · exact ihr h
  | «repeated» body min max greedy ih =>
    obtain ⟨k, -, hk⟩ := h
    exact Times.trans_of Cursor.Extends.refl (fun _ _ _ hab hbc => (ih hab).trans hbc) hk
  | capture index body ih =>
    obtain ⟨m, hm, rfl⟩ := h
    exact (ih hm).capture

end PatternGrammar.Regex
