import Mathlib.Data.Nat.Notation
import PatternGrammar.Text.Span

/-!
# Slices of a text

A span has a slice iff the text is what comes before the span, the slice and what comes after it,
and the span measures these in bytes (`slice?_eq_some_iff`). All other facts about slices follow:

* `slice?_whole`: the span of a whole text gives the text back.
* `slice?_shift`: the slice of a slice is the slice of the shifted span.
* `slice?_between`: the span between two places of a text is the bytes of the characters there.
-/

namespace PatternGrammar.Text

@[simp] theorem byteSize_nil : byteSize [] = 0 := rfl

@[simp] theorem byteSize_cons (c : Char) (cs : List Char) :
    byteSize (c :: cs) = c.utf8Size + byteSize cs := rfl

@[simp] theorem byteSize_append (as bs : List Char) :
    byteSize (as ++ bs) = byteSize as + byteSize bs := by
  induction as with
  | nil => simp
  | cons c as ih => rw [List.cons_append, byteSize_cons, byteSize_cons, ih, Nat.add_assoc]

theorem byteSize_take_le (cs : List Char) {i j : ℕ} (h : i ≤ j) :
    byteSize (cs.take i) ≤ byteSize (cs.take j) := by
  obtain ⟨k, rfl⟩ := Nat.exists_eq_add_of_le h
  rw [List.take_add, byteSize_append]
  exact Nat.le_add_right _ _

theorem byteSize_eq_zero_iff {cs : List Char} : byteSize cs = 0 ↔ cs = [] := by
  cases cs with
  | nil => simp
  | cons c cs =>
    have := c.utf8Size_pos
    simp only [byteSize_cons, reduceCtorEq, iff_false]
    omega

/-! ## Taking and dropping bytes -/

theorem dropBytes_eq_some_iff {n : ℕ} {cs rest : List Char} :
    dropBytes n cs = some rest ↔ ∃ front, cs = front ++ rest ∧ byteSize front = n := by
  induction cs generalizing n with
  | nil =>
    cases n with
    | zero =>
      simp only [dropBytes, Option.some.injEq]
      constructor
      · rintro rfl; exact ⟨[], rfl, rfl⟩
      · rintro ⟨_, h, _⟩; exact (List.append_eq_nil_iff.1 h.symm).2.symm
    | succ n =>
      simp only [dropBytes, reduceCtorEq, false_iff, not_exists, not_and]
      intro front h
      simp [(List.append_eq_nil_iff.1 h.symm).1]
  | cons c cs ih =>
    have hc := c.utf8Size_pos
    cases n with
    | zero =>
      simp only [dropBytes, Option.some.injEq, byteSize_eq_zero_iff]
      constructor
      · rintro rfl; exact ⟨[], rfl, rfl⟩
      · rintro ⟨_, h, rfl⟩; exact h
    | succ n =>
      rw [dropBytes]
      split
      · rename_i hle
        rw [ih]
        constructor
        · rintro ⟨front, rfl, hsize⟩
          exact ⟨c :: front, rfl, by rw [byteSize_cons]; omega⟩
        · rintro ⟨front, hcs, hsize⟩
          cases front with
          | nil => simp at hsize
          | cons d front =>
            obtain ⟨rfl, rfl⟩ := List.cons.inj hcs
            exact ⟨front, rfl, by rw [byteSize_cons] at hsize; omega⟩
      · rename_i hlt
        simp only [reduceCtorEq, false_iff, not_exists, not_and]
        intro front hcs hsize
        cases front with
        | nil => simp at hsize
        | cons d front =>
          obtain ⟨rfl, rfl⟩ := List.cons.inj hcs
          rw [byteSize_cons] at hsize
          omega

theorem takeBytes_eq_some_iff {n : ℕ} {cs front : List Char} :
    takeBytes n cs = some front ↔ byteSize front = n ∧ front <+: cs := by
  induction cs generalizing n front with
  | nil =>
    cases n with
    | zero =>
      simp only [takeBytes, Option.some.injEq, byteSize_eq_zero_iff]
      constructor
      · rintro rfl; exact ⟨rfl, List.nil_prefix⟩
      · rintro ⟨rfl, _⟩; rfl
    | succ n =>
      simp only [takeBytes, reduceCtorEq, List.prefix_nil, false_iff, not_and]
      rintro h rfl
      simp at h
  | cons c cs ih =>
    have hc := c.utf8Size_pos
    cases n with
    | zero =>
      simp only [takeBytes, Option.some.injEq, byteSize_eq_zero_iff]
      constructor
      · rintro rfl; exact ⟨rfl, List.nil_prefix⟩
      · rintro ⟨rfl, _⟩; rfl
    | succ n =>
      rw [takeBytes]
      split
      · rename_i hle
        simp only [Option.map_eq_some_iff, ih]
        constructor
        · rintro ⟨front, ⟨hsize, hpre⟩, rfl⟩
          exact ⟨by rw [byteSize_cons]; omega, List.cons_prefix_cons.2 ⟨rfl, hpre⟩⟩
        · rintro ⟨hsize, hpre⟩
          cases front with
          | nil => simp at hsize
          | cons d front =>
            obtain ⟨rfl, hrest⟩ := List.cons_prefix_cons.1 hpre
            exact ⟨front, ⟨by rw [byteSize_cons] at hsize; omega, hrest⟩, rfl⟩
      · rename_i hlt
        simp only [reduceCtorEq, false_iff, not_and]
        intro hsize hpre
        cases front with
        | nil => simp at hsize
        | cons d front =>
          obtain ⟨rfl, _⟩ := List.cons_prefix_cons.1 hpre
          rw [byteSize_cons] at hsize
          omega

/-! ## Slices -/

/-- A span has a slice iff it cuts the text between characters around it. -/
theorem slice?_eq_some_iff {s t : String} {span : Span} :
    slice? s span = some t ↔
      ∃ front rest, s.toList = front ++ t.toList ++ rest ∧ span.start = byteSize front ∧
        span.stop = byteSize (front ++ t.toList) := by
  unfold slice?
  constructor
  · intro h
    split at h
    · rename_i hle
      obtain ⟨cs, hbind, rfl⟩ := Option.map_eq_some_iff.1 h
      obtain ⟨rest, hdrop, htake⟩ := Option.bind_eq_some_iff.1 hbind
      obtain ⟨front, hs, hfront⟩ := dropBytes_eq_some_iff.1 hdrop
      obtain ⟨hsize, more, rfl⟩ := takeBytes_eq_some_iff.1 htake
      refine ⟨front, more, by simp [hs], hfront.symm, ?_⟩
      rw [String.toList_ofList, byteSize_append]
      omega
    · simp at h
  · rintro ⟨front, rest, hs, hstart, hstop⟩
    rw [byteSize_append] at hstop
    rw [if_pos (by omega)]
    have hdrop : dropBytes span.start s.toList = some (t.toList ++ rest) :=
      dropBytes_eq_some_iff.2 ⟨front, by rw [hs, List.append_assoc], hstart.symm⟩
    have htake : takeBytes (span.stop - span.start) (t.toList ++ rest) = some t.toList :=
      takeBytes_eq_some_iff.2 ⟨by omega, List.prefix_append _ _⟩
    simp [hdrop, htake]

/-- A slice from the start of a text is what the text begins with, and ends behind it. -/
theorem slice?_front_iff {s : String} {front : List Char} {stop : ℕ} :
    slice? s ⟨0, stop⟩ = some (String.ofList front) ↔
      ∃ rest, s.toList = front ++ rest ∧ stop = byteSize front := by
  rw [slice?_eq_some_iff]
  constructor
  · rintro ⟨before, rest, hs, hstart, hstop⟩
    obtain rfl := byteSize_eq_zero_iff.1 hstart.symm
    rw [String.toList_ofList] at hs hstop
    exact ⟨rest, hs, hstop⟩
  · rintro ⟨rest, hs, hstop⟩
    refine ⟨[], rest, ?_, rfl, ?_⟩
    · rw [String.toList_ofList, hs, List.nil_append]
    · rw [String.toList_ofList, hstop, List.nil_append]

/-- A slice up to the end of a text is what the text ends with, and begins in front of it. -/
theorem slice?_back_iff {s : String} {back : List Char} {start : ℕ} :
    slice? s ⟨start, byteSize s.toList⟩ = some (String.ofList back) ↔
      ∃ front, s.toList = front ++ back ∧ start = byteSize front := by
  rw [slice?_eq_some_iff, String.toList_ofList]
  constructor
  · rintro ⟨front, rest, hs, hstart, hstop⟩
    have hsize : byteSize (front ++ back ++ rest) = byteSize (front ++ back) := hs ▸ hstop
    rw [byteSize_append _ rest] at hsize
    obtain rfl := byteSize_eq_zero_iff.1 (Nat.left_eq_add.1 hsize.symm)
    rw [List.append_nil] at hs
    exact ⟨front, hs, hstart⟩
  · rintro ⟨front, hs, hstart⟩
    exact ⟨front, [], by rw [hs, List.append_nil], hstart, by rw [hs]⟩

/-- The span of a whole text. -/
def wholeSpan (s : String) : Span := ⟨0, byteSize s.toList⟩

theorem slice?_whole (s : String) : slice? s (wholeSpan s) = some s :=
  slice?_eq_some_iff.2 ⟨[], [], by simp, rfl, rfl⟩

theorem slice_eq_of_slice? {s t : String} {span : Span} (h : slice? s span = some t) :
    slice s span = t := by
  rw [slice, h, Option.getD_some]

/-- A span with a slice is as long as the slice and ends inside of the text. -/
theorem span_of_slice? {s t : String} {span : Span} (h : slice? s span = some t) :
    span.start + byteSize t.toList = span.stop ∧ span.stop ≤ byteSize s.toList := by
  obtain ⟨front, rest, hs, hstart, hstop⟩ := slice?_eq_some_iff.1 h
  rw [byteSize_append] at hstop
  have hsize : byteSize s.toList = byteSize front + byteSize t.toList + byteSize rest := by
    rw [hs, byteSize_append, byteSize_append]
  omega

/-- The slice of a slice is a slice of the text. -/
theorem slice?_shift {s t u : String} {span sub : Span} (ht : slice? s span = some t)
    (hu : slice? t sub = some u) : slice? s (sub.shift span.start) = some u := by
  obtain ⟨front, rest, hs, hstart, -⟩ := slice?_eq_some_iff.1 ht
  obtain ⟨front', rest', ht', hstart', hstop'⟩ := slice?_eq_some_iff.1 hu
  refine slice?_eq_some_iff.2 ⟨front ++ front', rest' ++ rest, ?_, ?_, ?_⟩
  · rw [hs, ht']
    simp only [List.append_assoc]
  · rw [Span.shift, hstart, hstart', byteSize_append]
  · rw [Span.shift, hstart, hstop']
    simp only [byteSize_append]
    omega

/-- The span in bytes between two places of a text has a slice. -/
theorem slice?_between (s : String) {i j : ℕ} (h : i ≤ j) :
    slice? s ⟨byteSize (s.toList.take i), byteSize (s.toList.take j)⟩ =
      some (String.ofList ((s.toList.drop i).take (j - i))) := by
  have hj : s.toList.take j = s.toList.take i ++ (s.toList.drop i).take (j - i) := by
    rw [← List.take_add, Nat.add_sub_cancel' h]
  refine slice?_eq_some_iff.2 ⟨s.toList.take i, s.toList.drop j, ?_, rfl, ?_⟩
  · rw [String.toList_ofList, ← hj, List.take_append_drop]
  · rw [String.toList_ofList, ← hj]

end PatternGrammar.Text
