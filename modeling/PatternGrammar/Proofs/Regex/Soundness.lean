import PatternGrammar.Proofs.Regex.Matching
import PatternGrammar.Proofs.Unicode.CharSet
import PatternGrammar.Regex.Program
import PatternGrammar.Regex.Search

/-!
# What a search finds is a match

The code of a pattern is a region of a program. A run that enters a region at its first instruction
and accepts later leaves the region at its end, and on the way the pattern has matched
(`passes_code`). The runs of a search begin at the start of the program, so that what a search finds
is a match of the pattern (`search_sound`).
-/

namespace PatternGrammar.Regex

/-! ## Runs of a program -/

/-- The thread that stands with a cursor at an instruction. -/
def Cursor.thread (a : Cursor) (pc : ℕ) : Thread := ⟨pc, a.place, a.saved⟩

/-- The cursor of a thread. -/
def Thread.cursor (t : Thread) : Cursor := ⟨t.place, t.saved⟩

section

variable (program : Program) (text : Array Char)

/-- One step of a thread. -/
def Step (t t' : Thread) : Prop :=
  ∃ instr, program[t.pc]? = some instr ∧ t' ∈ t.successors text instr

/-- The thread accepts. -/
def Accepts (t : Thread) : Prop := program[t.pc]? = some .accept

/-- The code stands in the program from an address on. -/
def CodeAt : ℕ → List Instr → Prop
  | _, [] => True
  | start, instr :: code => program[start]? = some instr ∧ CodeAt (start + 1) code

/-- A run from `start` that accepts comes to `stop`, with cursors that are related, and needs no
more steps from there than from `start`. -/
def Passes (start stop : ℕ) (R : Cursor → Cursor → Prop) : Prop :=
  ∀ n a t, Times (Step program text) n (a.thread start) t → Accepts program t →
    ∃ m, m ≤ n ∧ ∃ b, R a b ∧ Times (Step program text) m (b.thread stop) t

end

variable {program : Program} {text : Array Char}

theorem codeAt_append {start : ℕ} {front back : List Instr} :
    CodeAt program start (front ++ back) ↔
      CodeAt program start front ∧ CodeAt program (start + front.length) back := by
  induction front generalizing start with
  | nil => simp [CodeAt]
  | cons instr front ih =>
    simp only [List.cons_append, CodeAt, ih, List.length_cons, and_assoc]
    rw [Nat.add_right_comm, Nat.add_assoc]

/-- A run that accepts later takes a step at each instruction other than `accept`. -/
theorem exists_step {instr : Instr} {n pc : ℕ} {a : Cursor} {t : Thread}
    (hpc : program[pc]? = some instr) (hne : instr ≠ .accept)
    (hrun : Times (Step program text) n (a.thread pc) t) (hacc : Accepts program t) :
    ∃ m, m < n ∧ ∃ t' ∈ (a.thread pc).successors text instr,
      Times (Step program text) m t' t := by
  cases n with
  | zero =>
    obtain rfl : a.thread pc = t := hrun
    rw [Accepts, Cursor.thread, hpc] at hacc
    exact absurd (Option.some.inj hacc) hne
  | succ n =>
    obtain ⟨t', ⟨instr', hpc', ht'⟩, hrest⟩ := hrun
    rw [Cursor.thread, hpc] at hpc'
    obtain rfl := Option.some.inj hpc'
    exact ⟨n, Nat.lt_succ_self n, t', ht', hrest⟩

namespace Passes

variable {start mid stop : ℕ} {R Q : Cursor → Cursor → Prop}

theorem refl (start : ℕ) : Passes program text start start (fun a b => a = b) :=
  fun n a _ hrun _ => ⟨n, Nat.le_refl n, a, rfl, hrun⟩

theorem comp (hR : Passes program text start mid R) (hQ : Passes program text mid stop Q) :
    Passes program text start stop (fun a b => ∃ m, R a m ∧ Q m b) := by
  intro n a t hrun hacc
  obtain ⟨m, hm, b, hab, hrest⟩ := hR n a t hrun hacc
  obtain ⟨k, hk, c, hbc, hlast⟩ := hQ m b t hrest hacc
  exact ⟨k, by omega, c, ⟨b, hab, hbc⟩, hlast⟩

theorem mono (hR : Passes program text start stop R) (h : ∀ a b, R a b → Q a b) :
    Passes program text start stop Q := by
  intro n a t hrun hacc
  obtain ⟨m, hm, b, hab, hrest⟩ := hR n a t hrun hacc
  exact ⟨m, hm, b, h a b hab, hrest⟩

/-- An instruction that only goes on to one thread or to none. -/
theorem of_instr {instr : Instr} (hpc : program[start]? = some instr) (hne : instr ≠ .accept)
    (h : ∀ a t', t' ∈ (a.thread start).successors text instr →
      ∃ b, R a b ∧ t' = b.thread (start + 1)) :
    Passes program text start (start + 1) R := by
  intro n a t hrun hacc
  obtain ⟨m, hm, t', ht', hrest⟩ := exists_step hpc hne hrun hacc
  obtain ⟨b, hab, rfl⟩ := h a t' ht'
  exact ⟨m, Nat.le_of_lt hm, b, hab, hrest⟩

end Passes

/-! ## Single instructions -/

theorem passes_chars {set : CharSet} {start : ℕ} (hpc : program[start]? = some (.chars set)) :
    Passes program text start (start + 1)
      (fun a b => ∃ c, text[a.place]? = some c ∧ set.contains c ∧ b = a.skip 1) := by
  refine Passes.of_instr hpc (by simp) fun a t' ht' => ?_
  simp only [Thread.successors, Cursor.thread] at ht'
  split at ht'
  · rename_i c hc
    split at ht'
    · rename_i hmem
      obtain rfl := List.mem_singleton.1 ht'
      exact ⟨a.skip 1, ⟨c, hc, hmem, rfl⟩, rfl⟩
    · simp at ht'
  · simp at ht'

theorem passes_look {l : Look} {start : ℕ} (hpc : program[start]? = some (.look l)) :
    Passes program text start (start + 1) (fun a b => l.holds text a.place ∧ a = b) := by
  refine Passes.of_instr hpc (by simp) fun a t' ht' => ?_
  by_cases hl : l.holds text a.place
  · simp only [Thread.successors, Cursor.thread, hl, if_true, List.mem_singleton] at ht'
    exact ⟨a, ⟨hl, rfl⟩, ht'⟩
  · simp [Thread.successors, Cursor.thread, hl] at ht'

theorem passes_save {slot start : ℕ} (hpc : program[start]? = some (.save slot)) :
    Passes program text start (start + 1) (fun a b => b = a.record slot) := by
  refine Passes.of_instr hpc (by simp) fun a t' ht' => ?_
  simp only [Thread.successors, Cursor.thread, List.mem_singleton] at ht'
  exact ⟨a.record slot, rfl, ht'⟩

theorem passes_jump {target start : ℕ} (hpc : program[start]? = some (.jump target)) :
    Passes program text start target (fun a b => a = b) := by
  intro n a t hrun hacc
  obtain ⟨m, hm, t', ht', hrest⟩ := exists_step hpc (by simp) hrun hacc
  simp only [Thread.successors, List.mem_singleton] at ht'
  subst ht'
  exact ⟨m, Nat.le_of_lt hm, a, rfl, hrest⟩

/-- A split goes on at one of its two targets. -/
theorem exists_split {inside out n pc : ℕ} {greedy : Bool} {a : Cursor} {t : Thread}
    (hpc : program[pc]? = some (Pattern.branch greedy inside out))
    (hrun : Times (Step program text) n (a.thread pc) t) (hacc : Accepts program t) :
    ∃ m, m < n ∧ (Times (Step program text) m (a.thread inside) t ∨
      Times (Step program text) m (a.thread out) t) := by
  obtain ⟨m, hm, t', ht', hrest⟩ :=
    exists_step hpc (by unfold Pattern.branch; split <;> simp) hrun hacc
  refine ⟨m, hm, ?_⟩
  unfold Pattern.branch at ht'
  split at ht'
  · simp only [Thread.successors, List.mem_cons, List.not_mem_nil, or_false] at ht'
    rcases ht' with rfl | rfl
    · exact .inl hrest
    · exact .inr hrest
  · simp only [Thread.successors, List.mem_cons, List.not_mem_nil, or_false] at ht'
    rcases ht' with rfl | rfl
    · exact .inr hrest
    · exact .inl hrest

/-! ## Regions of code -/

section

open Pattern

variable {code : ℕ → List Instr} {R : Cursor → Cursor → Prop} {start : ℕ}

theorem passes_copies (hcode : ∀ s, CodeAt program s (code s) →
      Passes program text s (s + (code s).length) R) (n : ℕ)
    (h : CodeAt program start (copies code n start)) :
    Passes program text start (start + (copies code n start).length) (Times R n) := by
  induction n generalizing start with
  | zero => exact Passes.refl start
  | succ n ih =>
    rw [copies, codeAt_append] at h
    have := (hcode start h.1).comp (ih h.2)
    rwa [copies, List.length_append, ← Nat.add_assoc]

/-- A loop runs its body once or more. Each further round begins after fewer steps are left. -/
theorem passes_loop {greedy : Bool} (hcode : CodeAt program start (code start) →
      Passes program text start (start + (code start).length) R)
    (h : CodeAt program start (loop code greedy start)) :
    Passes program text start (start + (loop code greedy start).length)
      (fun a b => ∃ k, Times R (k + 1) a b) := by
  rw [loop, codeAt_append] at h
  obtain ⟨hbody, hbranch, -⟩ := h
  intro n
  induction n using Nat.strongRecOn with
  | ind n ih =>
    intro a t hrun hacc
    obtain ⟨m, hm, b, hab, hrest⟩ := hcode hbody n a t hrun hacc
    obtain ⟨k, hk, hinside | hout⟩ := exists_split hbranch hrest hacc
    · obtain ⟨j, hj, c, ⟨i, hbc⟩, hlast⟩ := ih k (by omega) b t hinside hacc
      exact ⟨j, by omega, c, ⟨i + 1, b, hab, hbc⟩, hlast⟩
    · refine ⟨k, by omega, b, ⟨0, b, hab, rfl⟩, ?_⟩
      rwa [loop, List.length_append]

theorem length_optionalCopies {greedy : Bool} {len : ℕ} (hlen : ∀ s, (code s).length = len)
    (n start : ℕ) : (optionalCopies code greedy n start).length = n * (len + 1) := by
  induction n generalizing start with
  | zero => simp [optionalCopies]
  | succ n ih =>
    rw [optionalCopies, List.cons_append, List.length_cons, List.length_append, hlen, ih]
    rw [Nat.succ_mul]
    omega

theorem passes_optionalCopies {greedy : Bool} {len : ℕ} (hlen : ∀ s, (code s).length = len)
    (hcode : ∀ s, CodeAt program s (code s) → Passes program text s (s + (code s).length) R) (n : ℕ)
    (h : CodeAt program start (optionalCopies code greedy n start)) :
    Passes program text start (start + (optionalCopies code greedy n start).length)
      (fun a b => ∃ k, k ≤ n ∧ Times R k a b) := by
  induction n generalizing start with
  | zero => exact (Passes.refl start).mono fun a b hab => ⟨0, Nat.le_refl 0, hab⟩
  | succ n ih =>
    have hout : start + (optionalCopies code greedy (n + 1) start).length =
        start + 1 + len + (optionalCopies code greedy n (start + 1 + len)).length := by
      rw [length_optionalCopies hlen, length_optionalCopies hlen, Nat.succ_mul]
      omega
    rw [hout]
    rw [optionalCopies, List.cons_append, CodeAt, codeAt_append, hlen] at h
    obtain ⟨hbranch, hcopy, hrest⟩ := h
    have hfirst := hcode _ hcopy
    rw [hlen] at hfirst
    intro m a t hrun hacc
    obtain ⟨k, hk, hinside | hstop⟩ := exists_split hbranch hrun hacc
    · obtain ⟨j, hj, c, ⟨b, hab, i, hi, hbc⟩, hlast⟩ := (hfirst.comp (ih hrest)) k a t hinside hacc
      exact ⟨j, by omega, c, ⟨i + 1, by omega, b, hab, hbc⟩, hlast⟩
    · refine ⟨k, by omega, a, ⟨0, Nat.zero_le _, rfl⟩, ?_⟩
      rw [← hout, length_optionalCopies hlen]
      exact hstop

end

/-! ## The code of a pattern -/

theorem length_copies {code : ℕ → List Instr} {len : ℕ} (hlen : ∀ s, (code s).length = len)
    (n start : ℕ) : (Pattern.copies code n start).length = n * len := by
  induction n generalizing start with
  | zero => simp [Pattern.copies]
  | succ n ih =>
    rw [Pattern.copies, List.length_append, hlen, ih, Nat.succ_mul, Nat.add_comm]

/-- The code of a pattern is equally long everywhere. -/
theorem length_code (p : Pattern) (s s' : ℕ) : (p.code s).length = (p.code s').length := by
  induction p generalizing s s' with
  | empty => simp [Pattern.code]
  | literal cs => simp [Pattern.code]
  | chars set _ => simp [Pattern.code]
  | look l => simp [Pattern.code]
  | seq first rest ihf ihr =>
    simp only [Pattern.code, List.length_append]
    rw [ihf s s', ihr _ (s' + (first.code s').length)]
  | choice first rest ihf ihr =>
    simp only [Pattern.code, List.length_append, List.length_cons]
    rw [ihf (s + 1) (s' + 1), ihr _ (s' + (first.code (s' + 1)).length + 2)]
  | «repeated» body min max greedy ih =>
    have hlen : ∀ s, (body.code s).length = (body.code 0).length := fun s => ih s 0
    cases max with
    | some max =>
      simp only [Pattern.code, List.length_append, length_copies hlen, length_optionalCopies hlen]
    | none =>
      cases min with
      | zero => simp only [Pattern.code, Pattern.loop, List.length_cons, List.length_append, hlen]
      | succ n =>
        simp only [Pattern.code, Pattern.loop, List.length_append, length_copies hlen, hlen,
          List.length_cons]
  | capture index body ih =>
    simp only [Pattern.code, List.length_append, List.length_cons]
    rw [ih (s + 1) (s' + 1)]

theorem passes_literal {cs : List Char} {start : ℕ}
    (h : CodeAt program start (cs.map fun c => .chars (CharSet.singleton c))) :
    Passes program text start (start + cs.length)
      (fun a b => cs <+: text.toList.drop a.place ∧ b = a.skip cs.length) := by
  induction cs generalizing start with
  | nil => exact (Passes.refl start).mono fun a b hab => ⟨List.nil_prefix, hab.symm⟩
  | cons c cs ih =>
    obtain ⟨hc, hcs⟩ := h
    have := (passes_chars hc).comp (ih hcs)
    rw [List.length_cons, Nat.add_comm cs.length, ← Nat.add_assoc]
    refine this.mono ?_
    rintro a b ⟨m, ⟨d, hd, hmem, rfl⟩, hpre, rfl⟩
    obtain rfl := CharSet.contains_singleton.1 hmem
    rw [← Array.getElem?_toList] at hd
    refine ⟨?_, ?_⟩
    · rw [List.drop_eq_getElem?_toList_append, hd]
      exact List.cons_prefix_cons.2 ⟨rfl, hpre⟩
    · simp [Cursor.skip, Nat.add_assoc]

/-- The code of a choice has a split in front of the first branch, and a jump behind it that leads
over the other branches. -/
theorem codeAt_choice {first rest : Pattern} {start : ℕ}
    (h : CodeAt program start ((Pattern.choice first rest).code start)) :
    ∃ mid, program[start]? = some (Pattern.branch true (start + 1) mid) ∧
      CodeAt program (start + 1) (first.code (start + 1)) ∧
      program[start + 1 + (first.code (start + 1)).length]? =
        some (.jump (start + ((Pattern.choice first rest).code start).length)) ∧
      start + 1 + (first.code (start + 1)).length + 1 = mid ∧ CodeAt program mid (rest.code mid) ∧
      mid + (rest.code mid).length = start + ((Pattern.choice first rest).code start).length := by
  have hstop : start + (first.code (start + 1)).length + 2 +
      (rest.code (start + (first.code (start + 1)).length + 2)).length =
        start + ((Pattern.choice first rest).code start).length := by
    simp only [Pattern.code, List.cons_append, List.length_cons, List.length_append]
    omega
  have hmid : start + 1 + (first.code (start + 1)).length + 1 =
      start + (first.code (start + 1)).length + 2 := by
    omega
  refine ⟨start + (first.code (start + 1)).length + 2, ?_⟩
  rw [← hstop]
  simp only [Pattern.code, List.cons_append, CodeAt, codeAt_append, hmid] at h
  exact ⟨h.1, h.2.1, h.2.2.1, hmid, h.2.2.2, rfl⟩

/-- A run that enters the code of a pattern and accepts later leaves the code at its end, and the
pattern has matched on the way. -/
theorem passes_code (p : Pattern) {start : ℕ} (h : CodeAt program start (p.code start)) :
    Passes program text start (start + (p.code start).length) (p.Matches text) := by
  induction p generalizing start with
  | empty => exact Passes.refl start
  | literal cs =>
    rw [Pattern.code, List.length_map]
    exact passes_literal h
  | chars set _ => exact passes_chars h.1
  | look l => exact passes_look h.1
  | seq first rest ihf ihr =>
    rw [Pattern.code, codeAt_append] at h
    have := (ihf h.1).comp (ihr h.2)
    rwa [Pattern.code, List.length_append, ← Nat.add_assoc]
  | choice first rest ihf ihr =>
    obtain ⟨mid, hbranch, hfirst, hjump, -, hrest, hstop⟩ := codeAt_choice h
    have hleft := (ihf hfirst).comp (passes_jump hjump)
    have hright := ihr hrest
    rw [hstop] at hright
    intro n a t hrun hacc
    obtain ⟨k, hk, hinside | hout⟩ := exists_split hbranch hrun hacc
    · obtain ⟨j, hj, c, ⟨b, hab, rfl⟩, hlast⟩ := hleft k a t hinside hacc
      exact ⟨j, by omega, b, .inl hab, hlast⟩
    · obtain ⟨j, hj, b, hab, hlast⟩ := hright k a t hout hacc
      exact ⟨j, by omega, b, .inr hab, hlast⟩
  | «repeated» body min max greedy ih =>
    have hlen : ∀ s, (body.code s).length = (body.code 0).length := fun s => length_code body s 0
    cases max with
    | some max =>
      rw [Pattern.code, codeAt_append] at h
      have := (passes_copies (fun s => ih) min h.1).comp
        (passes_optionalCopies hlen (fun s => ih) (max - min) h.2)
      rw [Pattern.code, List.length_append, ← Nat.add_assoc]
      refine this.mono ?_
      rintro a b ⟨m, ham, k, hk, hmb⟩
      refine ⟨min + k, ⟨Nat.le_add_right _ _, fun m hm => ?_⟩, ham.add hmb⟩
      obtain rfl := Option.mem_some.1 hm
      omega
    | none =>
      cases min with
      | zero =>
        rw [Pattern.code, CodeAt] at h
        obtain ⟨hsplit, hloop⟩ := h
        intro n a t hrun hacc
        obtain ⟨k, hk, hinside | hout⟩ := exists_split hsplit hrun hacc
        · obtain ⟨j, hj, b, ⟨i, hab⟩, hlast⟩ := passes_loop ih hloop k a t hinside hacc
          refine ⟨j, by omega, b, ⟨i + 1, ⟨Nat.zero_le _, by simp⟩, hab⟩, ?_⟩
          rwa [Pattern.code, List.length_cons, ← Nat.add_assoc, Nat.add_right_comm]
        · refine ⟨k, by omega, a, ⟨0, ⟨Nat.zero_le _, by simp⟩, rfl⟩, ?_⟩
          rwa [Pattern.code, List.length_cons, ← Nat.add_assoc, Nat.add_right_comm]
      | succ n =>
        rw [Pattern.code, codeAt_append] at h
        have := (passes_copies (fun s => ih) n h.1).comp (passes_loop ih h.2)
        rw [Pattern.code, List.length_append, ← Nat.add_assoc]
        refine this.mono ?_
        rintro a b ⟨m, ham, k, hmb⟩
        exact ⟨n + (k + 1), ⟨by omega, by simp⟩, ham.add hmb⟩
  | capture index body ih =>
    simp only [Pattern.code, List.cons_append, CodeAt, codeAt_append] at h
    obtain ⟨hopen, hbody, hclose, -⟩ := h
    have hstop : start + ((Pattern.capture index body).code start).length =
        start + 1 + (body.code (start + 1)).length + 1 := by
      simp only [Pattern.code, List.cons_append, List.length_cons, List.length_append,
        List.length_nil]
      omega
    rw [hstop]
    refine (((passes_save hopen).comp (ih hbody)).comp (passes_save hclose)).mono ?_
    rintro a b ⟨m, ⟨_, rfl, hm⟩, rfl⟩
    exact ⟨m, hm, rfl⟩

/-! ## Searches -/

/-- The thread that a row of threads comes to accept with comes from one of them. -/
theorem exists_run_of_runThreads {n : ℕ} {stack : List Thread} {seen : Array Bool} {t : Thread}
    (h : runThreads program text n stack seen = some t) :
    ∃ t₀ ∈ stack, ∃ k, Times (Step program text) k t₀ t ∧ Accepts program t := by
  induction n generalizing stack seen with
  | zero => simp [runThreads] at h
  | succ n ih =>
    cases stack with
    | nil => simp [runThreads] at h
    | cons t₁ rest =>
      rw [runThreads] at h
      split at h
      · obtain ⟨t₀, hmem, hrun⟩ := ih h
        exact ⟨t₀, List.mem_cons_of_mem _ hmem, hrun⟩
      · split at h
        · obtain ⟨t₀, hmem, hrun⟩ := ih h
          exact ⟨t₀, List.mem_cons_of_mem _ hmem, hrun⟩
        · rename_i hpc
          obtain rfl := Option.some.inj h
          exact ⟨t₁, List.mem_cons_self, 0, rfl, hpc⟩
        · rename_i instr _ hpc
          obtain ⟨t₀, hmem, k, hrun, hacc⟩ := ih h
          rcases List.mem_append.1 hmem with hmem | hmem
          · exact ⟨t₁, List.mem_cons_self, k + 1, ⟨t₀, ⟨instr, hpc, hmem⟩, hrun⟩, hacc⟩
          · exact ⟨t₀, List.mem_cons_of_mem _ hmem, k, hrun, hacc⟩

theorem codeAt_toArray (front code back : List Instr) :
    CodeAt (front ++ code ++ back).toArray front.length code := by
  induction code generalizing front with
  | nil => trivial
  | cons instr code ih =>
    refine ⟨by simp, ?_⟩
    have := ih (front ++ [instr])
    simpa using this

theorem codeAt_program (p : Pattern) :
    CodeAt p.program 0 ((Pattern.capture 0 p).code 0) :=
  codeAt_toArray [] _ [Instr.accept]

theorem program_end (p : Pattern) :
    p.program[0 + ((Pattern.capture 0 p).code 0).length]? = some .accept := by
  simp [Pattern.program]

/-- No step leads on from where a thread accepts. -/
theorem eq_of_times_accept {m pc : ℕ} {a : Cursor} {t : Thread} (hpc : program[pc]? = some .accept)
    (hrun : Times (Step program text) m (a.thread pc) t) : t = a.thread pc := by
  cases m with
  | zero => exact Eq.symm hrun
  | succ m =>
    obtain ⟨t', ⟨instr, hpc', ht'⟩, -⟩ := hrun
    rw [Cursor.thread, hpc] at hpc'
    obtain rfl := Option.some.inj hpc'
    simp [Thread.successors] at ht'

/-- A run of the program of a pattern that accepts is a match of the pattern as group 0. -/
theorem matches_of_run {p : Pattern} {k place : ℕ} {t : Thread}
    (hrun : Times (Step p.program text) k ⟨0, place, []⟩ t) (hacc : Accepts p.program t) :
    (Pattern.capture 0 p).Matches text ⟨place, []⟩ t.cursor := by
  obtain ⟨m, -, b, hb, hlast⟩ := passes_code _ (codeAt_program p) k ⟨place, []⟩ t hrun hacc
  obtain rfl := eq_of_times_accept (program_end p) hlast
  exact hb

/-- What a search from a place on finds is a match of the pattern as group 0, which begins at this
place or after it. -/
theorem search_sound {p : Pattern} {start : ℕ} {t : Thread}
    (h : search p.program text start = some t) :
    ∃ place, start ≤ place ∧ place ≤ text.size ∧
      (Pattern.capture 0 p).Matches text ⟨place, []⟩ t.cursor := by
  obtain ⟨t₀, hmem, k, hrun, hacc⟩ := exists_run_of_runThreads h
  obtain ⟨i, hi, rfl⟩ := List.mem_map.1 hmem
  rw [List.mem_range] at hi
  exact ⟨start + i, Nat.le_add_right _ _, by omega, matches_of_run hrun hacc⟩

end PatternGrammar.Regex
