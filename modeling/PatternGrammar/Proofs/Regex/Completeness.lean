import PatternGrammar.Proofs.Regex.Building
import PatternGrammar.Proofs.Regex.Spans

/-!
# Every match is a run

The machine of a pattern can take each way that the pattern matches: from where the code of the
pattern begins it comes to where the code ends, with the same records (`reaches_code`). With the
converse, that runs are matches, a regular expression can match between two places iff its pattern
does (`canMatch_iff`).
-/

namespace PatternGrammar.Regex

variable {program : Program} {text : Array Char}

/-- From `start` the program comes to `stop` with any cursors that are related. -/
def Reaches (program : Program) (text : Array Char) (start stop : ℕ) (R : Cursor → Cursor → Prop) :
    Prop :=
  ∀ a b, R a b → ∃ n, Times (Step program text) n (a.thread start) (b.thread stop)

namespace Reaches

variable {start mid stop : ℕ} {R Q : Cursor → Cursor → Prop}

theorem refl (start : ℕ) : Reaches program text start start (fun a b => a = b) := by
  rintro a _ rfl
  exact ⟨0, rfl⟩

theorem comp (hR : Reaches program text start mid R) (hQ : Reaches program text mid stop Q) :
    Reaches program text start stop (fun a b => ∃ m, R a m ∧ Q m b) := by
  rintro a b ⟨m, ham, hmb⟩
  obtain ⟨n, hn⟩ := hR a m ham
  obtain ⟨k, hk⟩ := hQ m b hmb
  exact ⟨n + k, hn.add hk⟩

theorem mono (hQ : Reaches program text start stop Q) (h : ∀ a b, R a b → Q a b) :
    Reaches program text start stop R :=
  fun a b hab => hQ a b (h a b hab)

/-- An instruction leads on. -/
theorem of_instr {instr : Instr} (hpc : program[start]? = some instr)
    (h : ∀ a b, R a b → b.thread stop ∈ (a.thread start).successors text instr) :
    Reaches program text start stop R :=
  fun a b hab => ⟨1, b.thread stop, ⟨instr, hpc, h a b hab⟩, rfl⟩

end Reaches

/-! ## Single instructions -/

theorem reaches_chars {set : CharSet} {start : ℕ} (hpc : program[start]? = some (.chars set)) :
    Reaches program text start (start + 1)
      (fun a b => ∃ c, text[a.place]? = some c ∧ set.contains c ∧ b = a.skip 1) := by
  refine .of_instr hpc ?_
  rintro a b ⟨c, hc, hmem, rfl⟩
  simp [Thread.successors, Cursor.thread, Cursor.skip, Thread.next, hc, hmem]

theorem reaches_look {l : Look} {start : ℕ} (hpc : program[start]? = some (.look l)) :
    Reaches program text start (start + 1) (fun a b => l.holds text a.place ∧ a = b) := by
  refine .of_instr hpc ?_
  rintro a b ⟨hl, rfl⟩
  simp [Thread.successors, Cursor.thread, Thread.next, hl]

theorem reaches_save {slot start : ℕ} (hpc : program[start]? = some (.save slot)) :
    Reaches program text start (start + 1) (fun a b => b = a.record slot) := by
  refine .of_instr hpc ?_
  rintro a b rfl
  simp [Thread.successors, Cursor.thread, Cursor.record, Thread.next]

theorem reaches_jump {target start : ℕ} (hpc : program[start]? = some (.jump target)) :
    Reaches program text start target (fun a b => a = b) := by
  refine .of_instr hpc ?_
  rintro a b rfl
  simp [Thread.successors, Cursor.thread]

theorem reaches_inside {inside out start : ℕ} {greedy : Bool}
    (hpc : program[start]? = some (Pattern.branch greedy inside out)) :
    Reaches program text start inside (fun a b => a = b) := by
  refine .of_instr hpc ?_
  rintro a b rfl
  unfold Pattern.branch
  split <;> simp [Thread.successors, Cursor.thread]

theorem reaches_out {inside out start : ℕ} {greedy : Bool}
    (hpc : program[start]? = some (Pattern.branch greedy inside out)) :
    Reaches program text start out (fun a b => a = b) := by
  refine .of_instr hpc ?_
  rintro a b rfl
  unfold Pattern.branch
  split <;> simp [Thread.successors, Cursor.thread]

/-! ## Regions of code -/

section

open Pattern

variable {code : ℕ → List Instr} {R : Cursor → Cursor → Prop} {start : ℕ}

theorem reaches_copies (hcode : ∀ s, CodeAt program s (code s) →
      Reaches program text s (s + (code s).length) R) (n : ℕ)
    (h : CodeAt program start (copies code n start)) :
    Reaches program text start (start + (copies code n start).length) (Times R n) := by
  induction n generalizing start with
  | zero => exact Reaches.refl start
  | succ n ih =>
    rw [copies, codeAt_append] at h
    have := (hcode start h.1).comp (ih h.2)
    rwa [copies, List.length_append, ← Nat.add_assoc]

theorem reaches_loop {greedy : Bool} (hcode : CodeAt program start (code start) →
      Reaches program text start (start + (code start).length) R)
    (h : CodeAt program start (loop code greedy start)) (k : ℕ) :
    Reaches program text start (start + (loop code greedy start).length) (Times R (k + 1)) := by
  rw [loop, codeAt_append] at h
  obtain ⟨hbody, hbranch, -⟩ := h
  have hround := hcode hbody
  induction k with
  | zero =>
    rw [loop, List.length_append]
    refine (hround.comp (reaches_out hbranch)).mono ?_
    rintro a b ⟨m, hm, rfl⟩
    exact ⟨m, hm, rfl⟩
  | succ k ih =>
    refine ((hround.comp (reaches_inside hbranch)).comp ih).mono ?_
    rintro a b ⟨m, hm, hb⟩
    exact ⟨m, ⟨m, hm, rfl⟩, hb⟩

theorem reaches_optionalCopies {greedy : Bool} {len : ℕ} (hlen : ∀ s, (code s).length = len)
    (hcode : ∀ s, CodeAt program s (code s) →
      Reaches program text s (s + (code s).length) R) (n k : ℕ) (hk : k ≤ n)
    (h : CodeAt program start (optionalCopies code greedy n start)) :
    Reaches program text start (start + (optionalCopies code greedy n start).length)
      (Times R k) := by
  induction n generalizing start k with
  | zero =>
    obtain rfl := Nat.le_zero.1 hk
    exact Reaches.refl start
  | succ n ih =>
    have hout : start + (optionalCopies code greedy (n + 1) start).length =
        start + 1 + len + (optionalCopies code greedy n (start + 1 + len)).length := by
      rw [length_optionalCopies hlen, length_optionalCopies hlen, Nat.succ_mul]
      omega
    have hend : start + (n + 1) * (len + 1) =
        start + (optionalCopies code greedy (n + 1) start).length := by
      rw [length_optionalCopies hlen]
    rw [optionalCopies, List.cons_append, CodeAt, codeAt_append, hlen] at h
    obtain ⟨hbranch, hcopy, hrest⟩ := h
    cases k with
    | zero =>
      rw [← hend]
      exact reaches_out hbranch
    | succ k =>
      have hfirst := hcode _ hcopy
      rw [hlen] at hfirst
      rw [hout]
      refine ((reaches_inside hbranch).comp (hfirst.comp (ih k (by omega) hrest))).mono ?_
      rintro a b ⟨m, hm, hb⟩
      exact ⟨a, rfl, m, hm, hb⟩

end

/-! ## The code of a pattern -/

theorem reaches_literal {cs : List Char} {start : ℕ}
    (h : CodeAt program start (cs.map fun c => .chars (CharSet.singleton c))) :
    Reaches program text start (start + cs.length)
      (fun a b => cs <+: text.toList.drop a.place ∧ b = a.skip cs.length) := by
  induction cs generalizing start with
  | nil => exact (Reaches.refl start).mono fun a b hab => hab.2.symm
  | cons c cs ih =>
    obtain ⟨hc, hcs⟩ := h
    rw [List.length_cons, Nat.add_comm cs.length, ← Nat.add_assoc]
    refine ((reaches_chars hc).comp (ih hcs)).mono ?_
    intro a b hab
    rw [Nat.add_comm 1] at hab
    obtain ⟨m, hm, hb⟩ := (@Pattern.matches_literal_append _ _ _ [c] cs).1 hab
    obtain ⟨hchar, rfl⟩ := Pattern.matches_char.1 hm
    exact ⟨_, ⟨c, hchar, CharSet.contains_singleton.2 rfl, rfl⟩, hb⟩

/-- From where the code of a pattern begins, the program takes each match of the pattern to where
the code ends. -/
theorem reaches_code (p : Pattern) {start : ℕ} (h : CodeAt program start (p.code start)) :
    Reaches program text start (start + (p.code start).length) (p.Matches text) := by
  induction p generalizing start with
  | empty => exact Reaches.refl start
  | literal cs =>
    rw [Pattern.code, List.length_map]
    exact reaches_literal h
  | chars set _ => exact reaches_chars h.1
  | look l => exact reaches_look h.1
  | seq first rest ihf ihr =>
    rw [Pattern.code, codeAt_append] at h
    have := (ihf h.1).comp (ihr h.2)
    rwa [Pattern.code, List.length_append, ← Nat.add_assoc]
  | choice first rest ihf ihr =>
    obtain ⟨mid, hbranch, hfirst, hjump, -, hrest, hstop⟩ := codeAt_choice h
    have hright := ihr hrest
    rw [hstop] at hright
    rintro a b (hab | hab)
    · refine ((reaches_inside hbranch).comp ((ihf hfirst).comp (reaches_jump hjump))) a b ?_
      exact ⟨a, rfl, b, hab, rfl⟩
    · exact ((reaches_out hbranch).comp hright) a b ⟨a, rfl, hab⟩
  | «repeated» body min max greedy ih =>
    have hlen : ∀ s, (body.code s).length = (body.code 0).length := fun s => length_code body s 0
    rintro a b ⟨k, ⟨hlow, hhigh⟩, hk⟩
    cases max with
    | some max =>
      have hhigh := hhigh max rfl
      rw [Pattern.code, codeAt_append] at h
      obtain ⟨j, rfl⟩ : ∃ j, k = min + j := ⟨k - min, by omega⟩
      obtain ⟨m, hm, hb⟩ := hk.split
      have := (reaches_copies (fun s => ih) min h.1).comp
        (reaches_optionalCopies hlen (fun s => ih) (max - min) j (by omega) h.2)
      rw [Pattern.code, List.length_append, ← Nat.add_assoc]
      exact this a b ⟨m, hm, hb⟩
    | none =>
      cases min with
      | zero =>
        rw [Pattern.code, CodeAt] at h
        obtain ⟨hsplit, hloop⟩ := h
        rw [Pattern.code, List.length_cons, ← Nat.add_assoc, Nat.add_right_comm]
        cases k with
        | zero => exact reaches_out hsplit a b hk
        | succ k =>
          exact ((reaches_inside hsplit).comp (reaches_loop ih hloop k)) a b ⟨a, rfl, hk⟩
      | succ n =>
        rw [Pattern.code, codeAt_append] at h
        obtain ⟨j, rfl⟩ : ∃ j, k = n + (j + 1) := ⟨k - n - 1, by omega⟩
        obtain ⟨m, hm, hb⟩ := hk.split
        have := (reaches_copies (fun s => ih) n h.1).comp (reaches_loop ih h.2 j)
        rw [Pattern.code, List.length_append, ← Nat.add_assoc]
        exact this a b ⟨m, hm, hb⟩
  | capture index body ih =>
    simp only [Pattern.code, List.cons_append, CodeAt, codeAt_append] at h
    obtain ⟨hopen, hbody, hclose, -⟩ := h
    have hstop : start + ((Pattern.capture index body).code start).length =
        start + 1 + (body.code (start + 1)).length + 1 := by
      simp only [Pattern.code, List.cons_append, List.length_cons, List.length_append,
        List.length_nil]
      omega
    rw [hstop]
    refine (((reaches_save hopen).comp (ih hbody)).comp (reaches_save hclose)).mono ?_
    rintro a b ⟨m, hm, rfl⟩
    exact ⟨m, ⟨_, rfl, hm⟩, rfl⟩

/-! ## Runs of a regular expression -/

/-- A run of the machine of a regular expression that begins at the first place accepts at the
second one. -/
def CanMatch (re : Regex) (s : String) (i j : ℕ) : Prop :=
  ∃ n t, Times (Step re.program s.toList.toArray) n ⟨0, i, []⟩ t ∧ Accepts re.program t ∧
    t.place = j

/-- A regular expression can match where its pattern does. -/
theorem canMatch_iff {re : Regex} (hre : re.program = re.pattern.program) {s : String} {i j : ℕ} :
    re.CanMatch s i j ↔ re.pattern.Spans s.toList.toArray i j := by
  show _ ↔ (Pattern.capture 0 re.pattern).Spans s.toList.toArray i j
  rw [CanMatch, hre, Pattern.spans_iff []]
  constructor
  · rintro ⟨n, t, hrun, hacc, rfl⟩
    exact ⟨t.saved, matches_of_run hrun hacc⟩
  · rintro ⟨s', hs'⟩
    obtain ⟨n, hrun⟩ := reaches_code _ (codeAt_program re.pattern) _ _ hs'
    exact ⟨n, _, hrun, program_end re.pattern, rfl⟩

end PatternGrammar.Regex
