import Mathlib.Data.Nat.Notation
import PatternGrammar.Text.Blank
import PatternGrammar.Text.Name

/-!
# Names and the ends of texts

What is cut off the ends of a text leaves a text alone that has other characters there
(`trim_append`). Names have no such characters at all, and end where another character stands
(`takeWhile_append_stop`).
-/

namespace PatternGrammar.Text

section

variable {α : Type} {p : α → Bool} {cs : List α}

/-- There is nothing to cut off at the two ends. -/
structure Trimmed (p : α → Bool) (cs : List α) : Prop where
  head : ∀ c ∈ cs.head?, p c = false
  last : ∀ c ∈ cs.getLast?, p c = false

theorem dropWhile_eq_self (h : ∀ c ∈ cs.head?, p c = false) : cs.dropWhile p = cs := by
  cases cs with
  | nil => rfl
  | cons c cs => rw [List.dropWhile_cons_of_neg (by simp [h c rfl])]

theorem takeWhile_append_stop {front rest : List α} (hfront : ∀ c ∈ front, p c)
    (hrest : ∀ c ∈ rest.head?, p c = false) : (front ++ rest).takeWhile p = front := by
  rw [List.takeWhile_append_of_pos hfront]
  cases rest with
  | nil => rw [List.takeWhile_nil, List.append_nil]
  | cons c rest => rw [List.takeWhile_cons_of_neg (by simp [hrest c rfl]), List.append_nil]

theorem dropWhile_append_stop {front rest : List α} (hfront : ∀ c ∈ front, p c)
    (hrest : ∀ c ∈ rest.head?, p c = false) : (front ++ rest).dropWhile p = rest := by
  rw [List.dropWhile_append_of_pos hfront, dropWhile_eq_self hrest]

/-- Cutting off the ends leaves what stands between them. -/
theorem trim_append {front rest : List α} (hfront : ∀ c ∈ front, p c) (hrest : ∀ c ∈ rest, p c)
    (h : Trimmed p cs) :
    (((front ++ cs ++ rest).dropWhile p).reverse.dropWhile p).reverse = cs := by
  cases hcs : cs with
  | nil =>
    have hall : ∀ c ∈ front ++ [] ++ rest, p c := by
      intro c hc
      rw [List.append_nil] at hc
      exact (List.mem_append.1 hc).elim (hfront c) (hrest c)
    rw [← List.append_nil (front ++ [] ++ rest), List.dropWhile_append_of_pos hall]
    rfl
  | cons c cs' =>
    have hhead : ∀ d ∈ (c :: cs' ++ rest).head?, p d = false := fun d hd => h.head d (hcs ▸ hd)
    rw [List.append_assoc, dropWhile_append_stop hfront hhead, List.reverse_append,
      dropWhile_append_stop (fun d hd => hrest d (List.mem_reverse.1 hd)), List.reverse_reverse]
    intro d hd
    rw [List.head?_reverse] at hd
    exact h.last d (hcs ▸ hd)

theorem mem_of_mem_trim {c : α} (h : c ∈ ((cs.dropWhile p).reverse.dropWhile p).reverse) :
    c ∈ cs := by
  rw [List.mem_reverse] at h
  exact (List.dropWhile_sublist p).subset (List.mem_reverse.1 ((List.dropWhile_sublist p).subset h))

/-- What is cut off stands at the two ends. -/
theorem exists_append_trim (p : α → Bool) (cs : List α) : ∃ front rest, (∀ c ∈ front, p c) ∧
    (∀ c ∈ rest, p c) ∧ cs = front ++ ((cs.dropWhile p).reverse.dropWhile p).reverse ++ rest := by
  refine ⟨cs.takeWhile p, ((cs.dropWhile p).reverse.takeWhile p).reverse, ?_, ?_, ?_⟩
  · exact List.all_eq_true.1 List.all_takeWhile
  · intro c hc
    exact List.all_eq_true.1 List.all_takeWhile c (List.mem_reverse.1 hc)
  · rw [List.append_assoc, ← List.reverse_append, List.takeWhile_append_dropWhile,
      List.reverse_reverse, List.takeWhile_append_dropWhile]

theorem Trimmed.mono {q : α → Bool} (h : Trimmed p cs) (hq : ∀ c, q c → p c) : Trimmed q cs := by
  have hfalse : ∀ c, p c = false → q c = false := fun c hc =>
    Bool.eq_false_iff.2 fun hqc => Bool.eq_false_iff.1 hc (hq c hqc)
  exact ⟨fun c hc => hfalse c (h.head c hc), fun c hc => hfalse c (h.last c hc)⟩

/-- Where there is nothing to cut off, what is to be cut off stands at no end. -/
theorem Trimmed.eq_nil {front rest : List α} (h : Trimmed p (front ++ cs ++ rest))
    (hfront : ∀ c ∈ front, p c) (hrest : ∀ c ∈ rest, p c) : front = [] ∧ rest = [] := by
  constructor
  · cases front with
    | nil => rfl
    | cons c front =>
      have hp := h.head c rfl
      rw [hfront c List.mem_cons_self] at hp
      simp at hp
  · cases hlast : rest.getLast? with
    | none => exact List.getLast?_eq_none_iff.1 hlast
    | some c =>
      have hp := h.last c (by rw [List.getLast?_append, hlast, Option.some_or]; rfl)
      rw [hrest c (List.mem_of_getLast? hlast)] at hp
      simp at hp

theorem head?_dropWhile (p : α → Bool) (cs : List α) :
    ∀ c ∈ (cs.dropWhile p).head?, p c = false := by
  intro c hc
  have hnot := List.head?_dropWhile_not p cs
  rw [Option.mem_def.1 hc] at hnot
  exact hnot

/-- Nothing is left to cut off. -/
theorem trimmed_trim (p : α → Bool) (cs : List α) :
    Trimmed p ((cs.dropWhile p).reverse.dropWhile p).reverse := by
  constructor
  · intro c hc
    -- the first character is that of the text that is cut off at its end
    rw [List.head?_reverse] at hc
    apply head?_dropWhile p cs
    rw [← List.getLast?_reverse, ← List.takeWhile_append_dropWhile (p := p)
      (l := (cs.dropWhile p).reverse), List.getLast?_append, Option.mem_def.1 hc]
    rfl
  · intro c hc
    rw [List.getLast?_reverse] at hc
    exact head?_dropWhile p _ c hc

/-! ## Rows of texts -/

/-- What stands between two texts does not matter for the ends. -/
theorem Trimmed.append_append {front mid rest : List α} (hfront : Trimmed p front)
    (hrest : Trimmed p rest) (hfront' : front ≠ []) (hrest' : rest ≠ []) :
    Trimmed p (front ++ mid ++ rest) := by
  obtain ⟨c, front, rfl⟩ := List.exists_cons_of_ne_nil hfront'
  refine ⟨fun d hd => hfront.head d hd, fun d hd => hrest.last d ?_⟩
  rw [List.getLast?_append] at hd
  rcases Option.or_eq_some_iff.1 hd with hd | ⟨hnone, -⟩
  · exact hd
  · exact absurd (List.getLast?_eq_none_iff.1 hnone) hrest'

theorem intercalate_cons (sep : List α) (x : List α) (xs : List (List α)) :
    sep.intercalate (x :: xs) = x ++ xs.flatMap (sep ++ ·) := by
  induction xs generalizing x with
  | nil => rw [List.intercalate_singleton, List.flatMap_nil, List.append_nil]
  | cons y ys ih =>
    rw [List.intercalate_cons_cons, ih, List.flatMap_cons, List.append_assoc, List.append_assoc]

theorem trimmed_intercalate {sep : List α} {xs : List (List α)}
    (h : ∀ x ∈ xs, Trimmed p x ∧ x ≠ []) :
    Trimmed p (sep.intercalate xs) ∧ (xs ≠ [] → sep.intercalate xs ≠ []) := by
  induction xs with
  | nil => exact ⟨⟨by simp [List.intercalate_nil], by simp [List.intercalate_nil]⟩, by simp⟩
  | cons x xs ih =>
    obtain ⟨hx, hne⟩ := h x List.mem_cons_self
    cases xs with
    | nil =>
      rw [List.intercalate_singleton]
      exact ⟨hx, fun _ => hne⟩
    | cons y ys =>
      obtain ⟨hrest, hrest'⟩ := ih fun x hx => h x (List.mem_cons_of_mem _ hx)
      rw [List.intercalate_cons_cons]
      exact ⟨hx.append_append hrest hne (hrest' (by simp)), by simp [hne]⟩

theorem mem_intercalate {sep : List α} {xs : List (List α)} {c : α}
    (h : c ∈ sep.intercalate xs) : c ∈ sep ∨ ∃ x ∈ xs, c ∈ x := by
  cases xs with
  | nil => simp [List.intercalate_nil] at h
  | cons x xs =>
    rw [intercalate_cons, List.mem_append, List.mem_flatMap] at h
    rcases h with h | ⟨y, hy, h⟩
    · exact .inr ⟨x, List.mem_cons_self, h⟩
    · exact (List.mem_append.1 h).imp_right fun h => ⟨y, List.mem_cons_of_mem _ hy, h⟩

theorem mem_intercalate_of_mem {sep x : List α} {xs : List (List α)} {c : α} (hx : x ∈ xs)
    (hc : c ∈ x) : c ∈ sep.intercalate xs := by
  cases xs with
  | nil => simp at hx
  | cons y ys =>
    rw [intercalate_cons, List.mem_append, List.mem_flatMap]
    rcases List.mem_cons.1 hx with rfl | hx
    · exact .inl hc
    · exact .inr ⟨x, hx, List.mem_append_right _ hc⟩

end

theorem trimChars_eq_self {cs : List Char} (h : Trimmed isBlank cs) : trimChars cs = cs := by
  have htrim := @trim_append Char isBlank cs [] [] (by simp) (by simp) h
  rwa [List.nil_append, List.append_nil] at htrim

/-! ## Names -/

theorem isNameChar_of_isName {cs : List Char} (h : isName cs) : ∀ c ∈ cs, isNameChar c := by
  cases cs with
  | nil => simp
  | cons c cs =>
    rw [isName, Bool.and_eq_true] at h
    intro d hd
    rcases List.mem_cons.1 hd with rfl | hd
    · simp [isNameChar, Char.isAlphanum, h.1]
    · exact List.all_eq_true.1 h.2 d hd

theorem ne_nil_of_isName {cs : List Char} (h : isName cs) : cs ≠ [] := by
  rintro rfl
  simp [isName] at h

theorem ne_of_isNameChar {c d : Char} (hc : isNameChar c) (hd : isNameChar d = false) : c ≠ d := by
  rintro rfl
  rw [hc] at hd
  simp at hd

theorem isBlank_of_isNameChar {c : Char} (h : isNameChar c) : isBlank c = false := by
  have hrange : (48 ≤ c.toNat ∧ c.toNat ≤ 57) ∨ (65 ≤ c.toNat ∧ c.toNat ≤ 90) ∨
      (97 ≤ c.toNat ∧ c.toNat ≤ 122) ∨ c.toNat = 95 := by
    delta isNameChar Char.isAlphanum Char.isAlpha Char.isUpper Char.isLower Char.isDigit at h
    simp only [Bool.or_eq_true, Bool.and_eq_true, decide_eq_true_eq, beq_iff_eq, UInt32.le_iff_toNat_le] at h
    rcases h with ((h | h) | h) | rfl
    · exact .inr (.inl h)
    · exact .inr (.inr (.inl h))
    · exact .inl h
    · exact .inr (.inr (.inr rfl))
  simp only [isBlank, Bool.or_eq_false_iff, Bool.and_eq_false_iff, decide_eq_false_iff_not,
    beq_eq_false_iff_ne]
  omega

/-- Names end with what names consist of. -/
theorem trimmed_of_isName {p : Char → Bool} (hp : ∀ c, isNameChar c → p c = false)
    {cs : List Char} (h : isName cs) : Trimmed p cs :=
  ⟨fun c hc => hp c (isNameChar_of_isName h c (List.mem_of_mem_head? hc)),
    fun c hc => hp c (isNameChar_of_isName h c (List.mem_of_getLast? hc))⟩

end PatternGrammar.Text
