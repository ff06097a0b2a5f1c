import PatternGrammar.Proofs.Regex.Soundness
import PatternGrammar.Proofs.Text.Slices
import PatternGrammar.Regex.Basic

/-!
# The spans that a regular expression reports

A search works on places between characters; `findAll` and `named` report spans in bytes. All of
them are ranges of the searched text that begin and end between two characters:
`exists_slice_of_mem_findAll`, `exists_slice_of_mem_named`.
-/

namespace PatternGrammar.Regex

open PatternGrammar.Text

/-! ## Places and bytes -/

theorem toList_foldl_offsets (cs : List Char) (acc : Array ℕ) (n : ℕ) :
    (cs.foldl (fun (acc, n) c => (acc.push (n + c.utf8Size), n + c.utf8Size)) (acc, n)).1.toList =
      acc.toList ++ (List.range cs.length).map fun i => n + byteSize (cs.take (i + 1)) := by
  induction cs generalizing acc n with
  | nil => simp
  | cons c cs ih =>
    rw [List.foldl_cons, ih, Array.toList_push, List.append_assoc, List.length_cons,
      List.range_succ_eq_map]
    simp [Function.comp_def, Nat.add_assoc]

/-- The offset of a place is the number of bytes in front of it. -/
theorem getD_offsets {cs : List Char} {i : ℕ} (h : i ≤ cs.length) :
    (offsets cs).getD i 0 = byteSize (cs.take i) := by
  rw [offsets, Array.getD_eq_getD_getElem?, ← Array.getElem?_toList, toList_foldl_offsets]
  cases i with
  | zero => simp
  | succ i => simp [List.getElem?_range (show i < cs.length by omega)]

/-- The span of a match in bytes has a slice. -/
theorem exists_slice_byteSpan {s : String} {m : ℕ × ℕ} (hle : m.1 ≤ m.2)
    (hsize : m.2 ≤ s.toList.length) :
    ∃ t, slice? s (byteSpan (offsets s.toList) m) = some t := by
  refine ⟨String.ofList ((s.toList.drop m.1).take (m.2 - m.1)), ?_⟩
  rw [byteSpan, getD_offsets (by omega), getD_offsets hsize]
  exact slice?_between s hle

/-! ## Groups of a search -/

/-- The groups of what a search finds begin at the place where it began or after it, and end inside
of the text. -/
theorem group_of_search {p : Pattern} {text : Array Char} {start index : ℕ} {t : Thread}
    {m : ℕ × ℕ} (h : search p.program text start = some t) (hm : t.group index = some m) :
    start ≤ m.1 ∧ m.1 ≤ m.2 ∧ m.2 ≤ text.size := by
  obtain ⟨place, hstart, hplace, hmatch⟩ := search_sound h
  have hsize : t.place ≤ text.size := hmatch.place_le hplace
  obtain ⟨-, new, hnew, hgroups⟩ := hmatch.extends
  obtain rfl : t.saved = new := by simpa [Thread.cursor] using hnew
  have hgroup : GroupBetween place t.place t.saved index := hgroups index
  simp only [Thread.group, Thread.slot, bind, Option.bind_eq_some_iff] at hm
  obtain ⟨x, hx, y, hy, hxy⟩ := hm
  obtain rfl : (x, y) = m := Option.some.inj hxy
  rw [GroupBetween, hx, hy] at hgroup
  dsimp only at hgroup ⊢
  omega

/-- The first of the matches from a place on begins there or after it, and the others are those from
its end on. -/
theorem matchesFrom_eq_cons {p : Pattern} {text : Array Char} {n start : ℕ} {last : Option ℕ}
    {m : ℕ × ℕ} {ms : List (ℕ × ℕ)} (h : matchesFrom p.program text (n + 1) last start = m :: ms) :
    (start ≤ m.1 ∧ m.1 ≤ m.2 ∧ m.2 ≤ text.size) ∧
      ms = matchesFrom p.program text n (some m.2) m.2 := by
  have hgroup : ∀ {from' : ℕ} {m : ℕ × ℕ},
      (search p.program text from').bind (·.group 0) = some m →
        from' ≤ m.1 ∧ m.1 ≤ m.2 ∧ m.2 ≤ text.size := by
    intro from' m hm
    obtain ⟨t, ht, hm⟩ := Option.bind_eq_some_iff.1 hm
    exact group_of_search ht hm
  rw [matchesFrom] at h
  split at h
  · rename_i a b hfound
    obtain ⟨rfl, rfl⟩ := List.cons.inj h
    refine ⟨?_, rfl⟩
    split at hfound
    · rename_i hsearch
      split at hfound
      · have hlater := hgroup hfound
        omega
      · obtain h := Option.some.inj hfound
        exact h ▸ hgroup hsearch
    · simp at hfound
  · simp at h

/-- All matches begin where the first search began or after it, and are inside of the text. -/
theorem mem_matchesFrom {p : Pattern} {text : Array Char} {n start : ℕ} {last : Option ℕ}
    {m : ℕ × ℕ} (h : m ∈ matchesFrom p.program text n last start) :
    start ≤ m.1 ∧ m.1 ≤ m.2 ∧ m.2 ≤ text.size := by
  induction n generalizing last start with
  | zero => simp [matchesFrom] at h
  | succ n ih =>
    cases hmatches : matchesFrom p.program text (n + 1) last start with
    | nil => simp [hmatches] at h
    | cons first others =>
      obtain ⟨hfirst, rfl⟩ := matchesFrom_eq_cons hmatches
      rw [hmatches] at h
      rcases List.mem_cons.1 h with rfl | h
      · exact hfirst
      · have hm := ih h
        omega

/-- Each match ends before the later ones begin. -/
theorem pairwise_matchesFrom (p : Pattern) (text : Array Char) (n start : ℕ) (last : Option ℕ) :
    (matchesFrom p.program text n last start).Pairwise fun m m' => m.2 ≤ m'.1 := by
  induction n generalizing last start with
  | zero => exact List.Pairwise.nil
  | succ n ih =>
    cases hmatches : matchesFrom p.program text (n + 1) last start with
    | nil => exact List.Pairwise.nil
    | cons first others =>
      obtain ⟨-, rfl⟩ := matchesFrom_eq_cons hmatches
      exact List.pairwise_cons.2 ⟨fun m hm => (mem_matchesFrom hm).1, ih _ _⟩

/-! ## Reported spans -/

theorem program_of_compile {source : String} {re : Regex} (h : compile source = .ok re) :
    re.program = re.pattern.program := by
  unfold compile at h
  cases he : Expr.read source.toList with
  | error e => simp [he, bind, Except.bind] at h
  | ok e =>
    cases hp : e.resolve with
    | error e => simp [he, hp, bind, Except.bind] at h
    | ok p =>
      simp only [he, hp, bind, Except.bind] at h
      split at h
      · obtain rfl := Except.ok.inj h
        rfl
      · simp at h

theorem exists_slice_of_mem_findAll {re : Regex} (hre : re.program = re.pattern.program)
    {s : String} {m : Span} (h : m ∈ re.findAll s) : ∃ t, slice? s m = some t := by
  simp only [findAll, allMatches, List.mem_map, hre] at h
  obtain ⟨m, hm, rfl⟩ := h
  obtain ⟨-, hle, hsize⟩ := mem_matchesFrom hm
  exact exists_slice_byteSpan hle (by simpa using hsize)

/-- Each reported match ends before the later ones begin. -/
theorem pairwise_findAll {re : Regex} (hre : re.program = re.pattern.program) (s : String) :
    (re.findAll s).Pairwise fun m m' => m.stop ≤ m'.start := by
  rw [findAll, allMatches, hre, List.pairwise_map]
  refine (pairwise_matchesFrom _ _ _ _ _).imp_of_mem fun {m m'} hm hm' hle => ?_
  obtain ⟨-, hmle, hmsize⟩ := mem_matchesFrom hm
  obtain ⟨-, hmle', hmsize'⟩ := mem_matchesFrom hm'
  rw [List.size_toArray] at hmsize hmsize'
  rw [byteSpan, byteSpan]
  dsimp only
  rw [getD_offsets hmsize, getD_offsets (by omega)]
  exact byteSize_take_le s.toList hle

theorem exists_slice_of_mem_named {re : Regex} (hre : re.program = re.pattern.program)
    {names : List String} {s : String} {groups : List (Option Span)} {m : Span}
    (h : re.named names s = some groups) (hm : some m ∈ groups) : ∃ t, slice? s m = some t := by
  simp only [named, hre, Option.map_eq_some_iff] at h
  obtain ⟨t, ht, rfl⟩ := h
  obtain ⟨name, -, hname⟩ := List.mem_map.1 hm
  obtain ⟨m, hgroup, rfl⟩ := Option.map_eq_some_iff.1 hname
  obtain ⟨index, -, hgroup⟩ := Option.bind_eq_some_iff.1 hgroup
  obtain ⟨-, hle, hsize⟩ := group_of_search ht hgroup
  exact exists_slice_byteSpan hle (by simpa using hsize)

end PatternGrammar.Regex
