import Mathlib.Data.List.Sort
import Mathlib.Data.Nat.Notation
import PatternGrammar.Unicode.CharSet

/-!
# Members of sets of characters

Joining ranges that overlap or touch loses no code point and adds none, whatever ranges a set is made
of. So the set of some ranges has the characters in any of them, and a union those of either set.

Main results:

* `CharSet.hasCode_ofRanges`: what the set of some ranges holds.
* `CharSet.contains_union`, `CharSet.contains_foldl_union`: what unions hold.
* `CharSet.contains_of_single?`: what a set with exactly one character holds.
-/

namespace PatternGrammar.CharSet

/-- The code point lies in one of the ranges. -/
def InRanges (n : ℕ) (rs : List (ℕ × ℕ)) : Prop := ∃ r ∈ rs, r.1 ≤ n ∧ n ≤ r.2

theorem hasCode_iff {s : CharSet} {n : ℕ} : s.hasCode n ↔ InRanges n s.ranges := by
  simp [hasCode, InRanges]

@[simp] theorem inRanges_nil {n : ℕ} : ¬InRanges n [] := by simp [InRanges]

@[simp] theorem inRanges_cons {n : ℕ} {r : ℕ × ℕ} {rs : List (ℕ × ℕ)} :
    InRanges n (r :: rs) ↔ (r.1 ≤ n ∧ n ≤ r.2) ∨ InRanges n rs := by
  simp [InRanges]

@[simp] theorem inRanges_append {n : ℕ} {rs ss : List (ℕ × ℕ)} :
    InRanges n (rs ++ ss) ↔ InRanges n rs ∨ InRanges n ss := by
  simp [InRanges, or_and_right, exists_or]

/-! ## Joining ranges -/

/-- Ranges whose first code points do not go down. -/
def Ascending (rs : List (ℕ × ℕ)) : Prop := rs.Pairwise fun r s => r.1 ≤ s.1

theorem inRanges_joinAfter {n : ℕ} {r : ℕ × ℕ} {rs : List (ℕ × ℕ)} (h : Ascending (r :: rs)) :
    InRanges n (joinAfter r rs) ↔ InRanges n (r :: rs) := by
  induction rs generalizing r with
  | nil => rw [joinAfter]
  | cons s rs ih =>
    obtain ⟨hr, hrest⟩ := List.pairwise_cons.1 h
    have hle : r.1 ≤ s.1 := hr s List.mem_cons_self
    rw [joinAfter]
    split
    · rename_i htouch
      have hjoined : Ascending ((r.1, max r.2 s.2) :: rs) :=
        List.pairwise_cons.2 ⟨fun t ht => hr t (List.mem_cons_of_mem _ ht),
          (List.pairwise_cons.1 hrest).2⟩
      rw [ih hjoined, inRanges_cons, inRanges_cons, inRanges_cons, ← or_assoc]
      dsimp only
      refine or_congr_left ?_
      omega
    · rw [inRanges_cons, ih hrest, ← inRanges_cons]

theorem inRanges_joinTouching {n : ℕ} {rs : List (ℕ × ℕ)} (h : Ascending rs) :
    InRanges n (joinTouching rs) ↔ InRanges n rs := by
  cases rs with
  | nil => rw [joinTouching]
  | cons r rs => exact inRanges_joinAfter h

theorem ascending_mergeSort (rs : List (ℕ × ℕ)) :
    Ascending (rs.mergeSort fun r s => !isBefore s r) := by
  have htrans : ∀ a b c : ℕ × ℕ, !isBefore b a → !isBefore c b → !isBefore c a := by
    simp only [isBefore, Bool.not_eq_true', Bool.or_eq_false_iff, decide_eq_false_iff_not,
      Bool.and_eq_false_iff, beq_eq_false_iff_ne]
    omega
  have htotal : ∀ a b : ℕ × ℕ, (!isBefore b a || !isBefore a b) = true := by
    simp only [isBefore, Bool.or_eq_true, Bool.not_eq_true', Bool.or_eq_false_iff,
      decide_eq_false_iff_not, Bool.and_eq_false_iff, beq_eq_false_iff_ne]
    omega
  refine (List.pairwise_mergeSort htrans htotal rs).imp fun {r s} hrs => ?_
  simp only [isBefore, Bool.not_eq_true', Bool.or_eq_false_iff, decide_eq_false_iff_not] at hrs
  omega

/-- The set of some ranges holds the code points in any of them. -/
theorem hasCode_ofRanges {rs : List (ℕ × ℕ)} {n : ℕ} :
    (ofRanges rs).hasCode n ↔ InRanges n rs := by
  rw [hasCode_iff, ofRanges, inRanges_joinTouching (ascending_mergeSort rs)]
  simp only [InRanges, List.mem_mergeSort]

/-! ## Unions -/

@[simp] theorem contains_empty {c : Char} : empty.contains c = false := rfl

theorem contains_union {a b : CharSet} {c : Char} :
    (a.union b).contains c ↔ a.contains c ∨ b.contains c := by
  rw [contains, union, hasCode_ofRanges, inRanges_append, contains, contains, hasCode_iff,
    hasCode_iff]

theorem contains_foldl_union {sets : List CharSet} {acc : CharSet} {c : Char} :
    (sets.foldl union acc).contains c ↔ acc.contains c ∨ ∃ s ∈ sets, s.contains c := by
  induction sets generalizing acc with
  | nil => simp
  | cons s sets ih => simp [ih, contains_union, or_assoc]

/-- The set of some characters holds these characters. -/
theorem contains_ofRanges_chars {cs : List Char} {c : Char} :
    (ofRanges (cs.map fun c => (c.toNat, c.toNat))).contains c ↔ c ∈ cs := by
  rw [contains, hasCode_ofRanges, InRanges]
  constructor
  · rintro ⟨r, hr, hle, hge⟩
    obtain ⟨d, hd, rfl⟩ := List.mem_map.1 hr
    rwa [Char.toNat_inj.1 (Nat.le_antisymm hge hle)]
  · intro hc
    exact ⟨_, List.mem_map_of_mem hc, Nat.le_refl _, Nat.le_refl _⟩

/-! ## Single characters -/

theorem contains_singleton {c d : Char} : (singleton c).contains d ↔ d = c := by
  rw [contains, hasCode_iff, singleton, inRanges_cons]
  simp only [inRanges_nil, or_false]
  constructor
  · rintro ⟨hle, hge⟩
    exact Char.toNat_inj.1 (Nat.le_antisymm hge hle)
  · rintro rfl
    exact ⟨Nat.le_refl _, Nat.le_refl _⟩

/-- A set with exactly one character holds this character. -/
theorem contains_of_single? {s : CharSet} {c d : Char} (h : s.single? = some c) :
    s.contains d ↔ d = c := by
  unfold single? at h
  split at h
  · rename_i lo hi hranges
    split at h
    · rename_i hvalid
      obtain ⟨rfl, hvalid⟩ := hvalid
      obtain rfl := Option.some.inj h
      have hcode : (Char.ofNat lo).toNat = lo := by
        rw [Char.ofNat, dif_pos hvalid]
        rfl
      rw [contains, hasCode_iff, hranges, inRanges_cons, ← Char.toNat_inj, hcode]
      simp only [inRanges_nil, or_false]
      omega
    · simp at h
  · simp at h

/-- A set without ranges holds no character. -/
theorem contains_of_ranges_isEmpty {s : CharSet} {c : Char} (h : s.ranges.isEmpty) :
    s.contains c = false := by
  rw [List.isEmpty_iff] at h
  rw [contains, hasCode, h, List.any_nil]

end PatternGrammar.CharSet
