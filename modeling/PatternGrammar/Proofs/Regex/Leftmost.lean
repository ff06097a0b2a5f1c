import PatternGrammar.Proofs.Regex.Completeness
import PatternGrammar.Proofs.Regex.Recording

/-!
# A search finds the leftmost match

A search passes over states that it has visited. Nothing is lost by that: a visited state does not
accept, and what it leads to was visited or waits further up on the stack (`Closed`). When all
threads in front of a place have been worked off without a result, none of them comes to accept
(`runThreads_front`). So a search finds a match that begins no later than any other match.

Main result: `exists_search_of_canMatch`.
-/

namespace PatternGrammar.Regex

variable {program : Program} {text : Array Char} {seen : Array Bool} {t t' u : Thread}

/-! ## Visited states -/

/-- The state of a thread: the next instruction and the place in the text. -/
def Thread.state (t : Thread) : ℕ × ℕ := (t.pc, t.place)

/-- The state was visited, or is none of the machine. -/
def Seen (text : Array Char) (seen : Array Bool) (s : ℕ × ℕ) : Prop :=
  seen.getD (s.1 * (text.size + 1) + s.2) true = true

/-- The marks with one more state visited. -/
def mark (text : Array Char) (seen : Array Bool) (s : ℕ × ℕ) : Array Bool :=
  seen.setIfInBounds (s.1 * (text.size + 1) + s.2) true

/-- How many states were not visited. -/
def unseen (seen : Array Bool) : ℕ := seen.toList.count false

theorem state_eq_of_index (ht : t.place ≤ text.size) (hu : u.place ≤ text.size)
    (h : t.pc * (text.size + 1) + t.place = u.pc * (text.size + 1) + u.place) :
    t.state = u.state := by
  have hmod : ∀ v : Thread, v.place ≤ text.size →
      (v.pc * (text.size + 1) + v.place) % (text.size + 1) = v.place := fun v hv => by
    rw [Nat.add_comm, Nat.add_mul_mod_self_right, Nat.mod_eq_of_lt (by omega)]
  have hplace : t.place = u.place := by rw [← hmod t ht, ← hmod u hu, h]
  have hpc : t.pc * (text.size + 1) = u.pc * (text.size + 1) := by omega
  exact Prod.ext (Nat.eq_of_mul_eq_mul_right (Nat.succ_pos _) hpc) hplace

theorem seen_mark (ht : t.place ≤ text.size) (hu : u.place ≤ text.size) :
    Seen text (mark text seen t.state) u.state ↔ Seen text seen u.state ∨ u.state = t.state := by
  by_cases hstate : u.state = t.state
  · rw [hstate]
    refine iff_of_true ?_ (.inr rfl)
    rw [Seen, mark, Array.getD_eq_getD_getElem?, Array.getElem?_setIfInBounds_self]
    split <;> simp
  · have hindex : t.state.1 * (text.size + 1) + t.state.2 ≠
        u.state.1 * (text.size + 1) + u.state.2 :=
      fun h => hstate (state_eq_of_index ht hu h).symm
    rw [Seen, mark, Array.getD_eq_getD_getElem?, Array.getElem?_setIfInBounds_ne hindex,
      ← Array.getD_eq_getD_getElem?]
    simp [Seen, hstate]

theorem unseen_mark {s : ℕ × ℕ} (h : ¬Seen text seen s) :
    unseen (mark text seen s) + 1 = unseen seen := by
  rw [Seen, Array.getD_eq_getD_getElem?] at h
  have hlt : s.1 * (text.size + 1) + s.2 < seen.size := by
    by_contra hge
    rw [Array.getElem?_eq_none (by omega)] at h
    simp at h
  have hfalse : seen.toList[s.1 * (text.size + 1) + s.2] = false := by
    rw [Array.getElem?_eq_getElem hlt] at h
    simpa using h
  have hpos : 0 < seen.toList.count false :=
    List.count_pos_iff.2 (by rw [← hfalse]; exact List.getElem_mem _)
  rw [unseen, unseen, mark, Array.toList_setIfInBounds, List.count_set (by simpa using hlt), hfalse]
  show seen.toList.count false - 1 + 0 + 1 = seen.toList.count false
  omega

/-! ## Steps between states -/

theorem place_of_mem_successors {instr : Instr} (ht : t.place ≤ text.size)
    (h : t' ∈ t.successors text instr) : t'.place ≤ text.size := by
  unfold Thread.successors at h
  split at h
  · split at h
    · rename_i c hc
      have hlt := (Array.getElem?_eq_some_iff.1 hc).1
      split at h
      · obtain rfl := List.mem_singleton.1 h
        exact hlt
      · simp at h
    · simp at h
  · split at h
    · obtain rfl := List.mem_singleton.1 h
      exact ht
    · simp at h
  · obtain rfl := List.mem_singleton.1 h
    exact ht
  · simp only [List.mem_cons, List.not_mem_nil, or_false] at h
    rcases h with rfl | rfl
    · exact ht
    · exact ht
  · obtain rfl := List.mem_singleton.1 h
    exact ht
  · simp at h

theorem length_successors_le (t : Thread) (text : Array Char) (instr : Instr) :
    (t.successors text instr).length ≤ 2 := by
  unfold Thread.successors
  split
  · split
    · split <;> simp
    · simp
  · split <;> simp
  · simp
  · simp
  · simp
  · simp

/-- What was recorded makes no difference to where a thread can go. -/
theorem map_state_successors (h : t.state = u.state) (instr : Instr) :
    (t.successors text instr).map Thread.state = (u.successors text instr).map Thread.state := by
  obtain ⟨hpc, hplace⟩ := Prod.mk.inj h
  unfold Thread.successors
  cases instr with
  | chars set =>
    simp only [hplace]
    split
    · split <;> simp [Thread.state, Thread.next, hpc]
    · rfl
  | look l =>
    simp only [hplace]
    split <;> simp [Thread.state, Thread.next, hpc, hplace]
  | save slot => simp [Thread.state, Thread.next, hpc, hplace]
  | split preferred other => simp [Thread.state, hplace]
  | jump target => simp [Thread.state, hplace]
  | accept => rfl

/-- The threads that a thread leads to. -/
def follow (program : Program) (text : Array Char) (t : Thread) : List Thread :=
  (program[t.pc]?).elim [] (t.successors text)

theorem mem_follow_iff : t' ∈ follow program text t ↔ Step program text t t' := by
  rw [follow, Step]
  cases program[t.pc]? with
  | none => simp
  | some instr => simp

theorem place_of_step (h : Step program text t t') (ht : t.place ≤ text.size) :
    t'.place ≤ text.size := by
  obtain ⟨instr, -, hmem⟩ := h
  exact place_of_mem_successors ht hmem

theorem length_follow_le (t : Thread) : (follow program text t).length ≤ 2 := by
  rw [follow]
  cases program[t.pc]? with
  | none => simp
  | some instr => exact length_successors_le t text instr

theorem exists_step_of_state_eq (h : t.state = u.state) (hstep : Step program text u t') :
    ∃ u', Step program text t u' ∧ u'.state = t'.state := by
  obtain ⟨instr, hinstr, hmem⟩ := hstep
  have hstates : t'.state ∈ (t.successors text instr).map Thread.state := by
    rw [map_state_successors h]
    exact List.mem_map_of_mem hmem
  obtain ⟨u', hu', heq⟩ := List.mem_map.1 hstates
  exact ⟨u', ⟨instr, by rwa [(Prod.mk.inj h).1], hu'⟩, heq⟩

/-! ## Turns of a search -/

theorem runThreads_pass (n : ℕ) (rest : List Thread) (h : Seen text seen t.state) :
    runThreads program text (n + 1) (t :: rest) seen = runThreads program text n rest seen := by
  rw [runThreads]
  exact if_pos h

theorem runThreads_accept (n : ℕ) (rest : List Thread) (h : ¬Seen text seen t.state)
    (haccepts : Accepts program t) :
    runThreads program text (n + 1) (t :: rest) seen = some t := by
  rw [runThreads, haccepts]
  exact if_neg h

theorem runThreads_visit (n : ℕ) (rest : List Thread) (h : ¬Seen text seen t.state)
    (haccepts : ¬Accepts program t) :
    runThreads program text (n + 1) (t :: rest) seen =
      runThreads program text n (follow program text t ++ rest) (mark text seen t.state) := by
  rw [runThreads, follow]
  refine (if_neg h).trans ?_
  rw [Accepts] at haccepts
  cases hpc : program[t.pc]? with
  | none => rfl
  | some instr =>
    cases instr with
    | accept => exact absurd hpc haccepts
    | _ => rfl

/-! ## Working off the threads in front -/

/-- From the address on no step goes back to an instruction before it. -/
def Forward (program : Program) (text : Array Char) (low : ℕ) : Prop :=
  ∀ t t', low ≤ t.pc → Step program text t t' → low ≤ t'.pc

theorem forward_zero : Forward program text 0 :=
  fun _ _ _ _ => Nat.zero_le _

/-- The first thread comes to accept as the second one. -/
def ComesTo (program : Program) (text : Array Char) (t u : Thread) : Prop :=
  ∃ k, Times (Step program text) k t u ∧ Accepts program u

theorem ComesTo.prepend (hstep : Step program text t t') (h : ComesTo program text t' u) :
    ComesTo program text t u := by
  obtain ⟨k, hrun, haccepts⟩ := h
  exact ⟨k + 1, ⟨t', hstep, hrun⟩, haccepts⟩

/-- From the address on a visited state does not accept, and what it leads to was visited or is the
state of a thread that waits in front. -/
def Closed (program : Program) (text : Array Char) (low : ℕ) (seen : Array Bool)
    (front : List Thread) : Prop :=
  ∀ t : Thread, low ≤ t.pc → t.place ≤ text.size → Seen text seen t.state →
    ¬Accepts program t ∧ ∀ t', Step program text t t' →
      Seen text seen t'.state ∨ t'.state ∈ front.map Thread.state

section

variable {low : ℕ}

theorem Closed.mono {low' : ℕ} {front : List Thread} (h : Closed program text low seen front)
    (hle : low ≤ low') : Closed program text low' seen front :=
  fun t hlow => h t (Nat.le_trans hle hlow)

theorem Closed.wait (h : Closed program text low seen []) (front : List Thread) :
    Closed program text low seen front := by
  intro t hlow ht hseen
  obtain ⟨haccepts, hnext⟩ := h t hlow ht hseen
  exact ⟨haccepts, fun t' hstep => .inl ((hnext t' hstep).resolve_right (by simp))⟩

/-- Where all that visited states lead to was visited, they do not come to accept. -/
theorem Closed.not_comesTo (h : Closed program text low seen [])
    (hforward : Forward program text low) (hlow : low ≤ t.pc) (ht : t.place ≤ text.size)
    (hseen : Seen text seen t.state) : ¬ComesTo program text t u := by
  rintro ⟨k, hrun, haccepts⟩
  induction k generalizing t with
  | zero =>
    obtain rfl : t = u := hrun
    exact (h t hlow ht hseen).1 haccepts
  | succ k ih =>
    obtain ⟨t', hstep, hrun⟩ := hrun
    exact ih (hforward t t' hlow hstep) (place_of_step hstep ht)
      (((h t hlow ht hseen).2 t' hstep).resolve_right (by simp)) hrun

/-- Passing over a thread whose state was visited. -/
theorem Closed.pass {front : List Thread} (h : Closed program text low seen (t :: front))
    (hseen : Seen text seen t.state) : Closed program text low seen front := by
  intro v hlow hv hvseen
  obtain ⟨haccepts, hnext⟩ := h v hlow hv hvseen
  refine ⟨haccepts, fun v' hstep => ?_⟩
  rcases hnext v' hstep with hnext | hnext
  · exact .inl hnext
  · rcases List.mem_cons.1 hnext with heq | hnext
    · exact .inl (heq ▸ hseen)
    · exact .inr hnext

/-- Visiting a state that does not accept, with the threads that it leads to put in front. -/
theorem Closed.visit {front : List Thread} (h : Closed program text low seen (t :: front))
    (ht : t.place ≤ text.size) (haccepts : ¬Accepts program t) :
    Closed program text low (mark text seen t.state) (follow program text t ++ front) := by
  intro v hlow hv hvseen
  rw [List.map_append]
  rcases (seen_mark ht hv).1 hvseen with hvseen | hstate
  · obtain ⟨hvaccepts, hnext⟩ := h v hlow hv hvseen
    refine ⟨hvaccepts, fun v' hstep => ?_⟩
    rw [seen_mark ht (place_of_step hstep hv)]
    rcases hnext v' hstep with hnext | hnext
    · exact .inl (.inl hnext)
    · rcases List.mem_cons.1 hnext with heq | hnext
      · exact .inl (.inr heq)
      · exact .inr (List.mem_append_right _ hnext)
  · refine ⟨by rwa [Accepts, (Prod.mk.inj hstate).1], fun v' hstep => ?_⟩
    obtain ⟨t', ht', heq⟩ := exists_step_of_state_eq hstate.symm hstep
    exact .inr (List.mem_append_left _ (heq ▸ List.mem_map_of_mem (mem_follow_iff.2 ht')))

/-- Visiting a state before the address changes nothing from the address on. -/
theorem Closed.visit_below (h : Closed program text low seen []) (ht : t.place ≤ text.size)
    (hbelow : t.pc < low) : Closed program text low (mark text seen t.state) [] := by
  intro v hlow hv hvseen
  have hne : v.state ≠ t.state := fun heq => by
    have := (Prod.mk.inj heq).1
    omega
  obtain ⟨haccepts, hnext⟩ := h v hlow hv (((seen_mark ht hv).1 hvseen).resolve_right hne)
  refine ⟨haccepts, fun v' hstep => .inl ((seen_mark ht (place_of_step hstep hv)).2 (.inl ?_))⟩
  exact (hnext v' hstep).resolve_right (by simp)

/-- A run of a stack ends with what one of the threads in front comes to accept as, whatever waits
behind them, or all of them have been visited and lead to nothing, and the run goes on with what
waits behind them. -/
theorem runThreads_front {n extra : ℕ} {front : List Thread}
    (hforward : Forward program text low) (hlow : ∀ t ∈ front, low ≤ t.pc)
    (hplace : ∀ t ∈ front, t.place ≤ text.size) (hclosed : Closed program text low seen front)
    (hsteps : 2 * unseen seen + front.length + extra < n) :
    (∃ t, (∃ t₀ ∈ front, ComesTo program text t₀ t) ∧
      ∀ rest, runThreads program text n (front ++ rest) seen = some t) ∨
    ∃ seen', Closed program text low seen' [] ∧
      (∀ t : Thread, t.place ≤ text.size → Seen text seen t.state → Seen text seen' t.state) ∧
      (∀ t ∈ front, Seen text seen' t.state) ∧ ∃ m, 2 * unseen seen' + extra < m ∧
        ∀ rest, runThreads program text n (front ++ rest) seen =
          runThreads program text m rest seen' := by
  induction n generalizing front seen with
  | zero => omega
  | succ n ih =>
    cases front with
    | nil =>
      exact .inr ⟨seen, hclosed, fun _ _ h => h, by simp, n + 1, by simpa using hsteps, fun _ => rfl⟩
    | cons t front =>
      obtain ⟨ht, hfront⟩ := List.forall_mem_cons.1 hplace
      obtain ⟨htlow, hfrontlow⟩ := List.forall_mem_cons.1 hlow
      rw [List.length_cons] at hsteps
      by_cases hseen : Seen text seen t.state
      · rcases ih hfrontlow hfront (hclosed.pass hseen) (by omega) with
          ⟨u, ⟨t₀, hmem, hu⟩, hrun⟩ | ⟨seen', hclosed', hmono, hall, m, hm, hrun⟩
        · refine .inl ⟨u, ⟨t₀, List.mem_cons_of_mem _ hmem, hu⟩, fun rest => ?_⟩
          exact (runThreads_pass n _ hseen).trans (hrun rest)
        · refine .inr ⟨seen', hclosed', hmono, List.forall_mem_cons.2 ⟨hmono t ht hseen, hall⟩, m,
            hm, fun rest => ?_⟩
          exact (runThreads_pass n _ hseen).trans (hrun rest)
      · by_cases haccepts : Accepts program t
        · exact .inl ⟨t, ⟨t, List.mem_cons_self, 0, rfl, haccepts⟩,
            fun rest => runThreads_accept n _ hseen haccepts⟩
        · have hnext : ∀ t' ∈ follow program text t ++ front, t'.place ≤ text.size :=
            List.forall_mem_append.2 ⟨fun t' h => place_of_step (mem_follow_iff.1 h) ht, hfront⟩
          have hnextlow : ∀ t' ∈ follow program text t ++ front, low ≤ t'.pc :=
            List.forall_mem_append.2
              ⟨fun t' h => hforward t t' htlow (mem_follow_iff.1 h), hfrontlow⟩
          have hvisit : ∀ rest, runThreads program text (n + 1) (t :: front ++ rest) seen =
              runThreads program text n (follow program text t ++ front ++ rest)
                (mark text seen t.state) := fun rest => by
            rw [List.cons_append, runThreads_visit n _ hseen haccepts, ← List.append_assoc]
          -- at most two threads come in, and one state is used up
          have hused := unseen_mark hseen
          have hlength : (follow program text t).length ≤ 2 := length_follow_le t
          rcases ih hnextlow hnext (hclosed.visit ht haccepts)
              (by rw [List.length_append]; omega) with
            ⟨u, ⟨t₀, hmem, hu⟩, hrun⟩ | ⟨seen', hclosed', hmono, hall, m, hm, hrun⟩
          · refine .inl ⟨u, ?_, fun rest => (hvisit rest).trans (hrun rest)⟩
            rcases List.mem_append.1 hmem with hmem | hmem
            · exact ⟨t, List.mem_cons_self, hu.prepend (mem_follow_iff.1 hmem)⟩
            · exact ⟨t₀, List.mem_cons_of_mem _ hmem, hu⟩
          · have hmark : ∀ v : Thread, v.place ≤ text.size →
                Seen text seen v.state ∨ v.state = t.state → Seen text seen' v.state :=
              fun v hv h => hmono v hv ((seen_mark ht hv).2 h)
            refine .inr ⟨seen', hclosed', fun v hv h => hmark v hv (.inl h),
              List.forall_mem_cons.2 ⟨hmark t ht (.inr rfl), fun v hv => ?_⟩, m, hm,
              fun rest => (hvisit rest).trans (hrun rest)⟩
            exact hall v (List.mem_append_right _ hv)

end

/-! ## The leftmost match -/

theorem closed_replicate (front : List Thread) :
    Closed program text 0 (Array.replicate (program.size * (text.size + 1)) false) front := by
  intro t _ ht hseen
  have hpc : program[t.pc]? = none := by
    by_contra hsome
    have hlt : t.pc < program.size := by
      by_contra hge
      exact hsome (Array.getElem?_eq_none (by omega))
    have hindex : t.pc * (text.size + 1) + t.place < program.size * (text.size + 1) :=
      calc t.pc * (text.size + 1) + t.place < (t.pc + 1) * (text.size + 1) := by
            rw [Nat.succ_mul]; omega
        _ ≤ program.size * (text.size + 1) := Nat.mul_le_mul_right _ hlt
    simp [Seen, Thread.state, Array.getD_eq_getD_getElem?, hindex] at hseen
  refine ⟨by simp [Accepts, hpc], ?_⟩
  rintro t' ⟨instr, hinstr, -⟩
  simp [hpc] at hinstr

theorem unseen_replicate (n : ℕ) : unseen (Array.replicate n false) = n := by
  rw [unseen, Array.toList_replicate, List.count_replicate_self]

/-- Where a thread that begins at a place comes to accept, a search that begins there or before it
finds what a thread comes to accept as that begins at this place or before it. -/
theorem exists_search_of_comesTo {start place : ℕ} (hstart : start ≤ place)
    (hplace : place ≤ text.size) (hu : ComesTo program text ⟨0, place, []⟩ u) :
    ∃ t i, search program text start = some t ∧ start ≤ i ∧ i ≤ place ∧
      ComesTo program text ⟨0, i, []⟩ t := by
  have hcount : text.size + 1 - start = (place + 1 - start) + (text.size - place) := by omega
  unfold search
  dsimp only
  rw [hcount, List.range_add, List.map_append]
  -- the threads that begin at the place or before it stand in front of all others
  generalize hfront : (List.range (place + 1 - start)).map
    (fun i => (⟨0, start + i, []⟩ : Thread)) = front
  generalize List.map _ (List.map _ (List.range (text.size - place))) = rest
  have hstarts : ∀ t ∈ front, ∃ i, start ≤ i ∧ i ≤ place ∧ t = ⟨0, i, []⟩ := by
    rw [← hfront]
    refine List.forall_mem_map.2 fun i hi => ?_
    rw [List.mem_range] at hi
    exact ⟨start + i, by omega, by omega, rfl⟩
  have hplaces : ∀ t ∈ front, t.place ≤ text.size := by
    intro t ht
    obtain ⟨i, -, hi, rfl⟩ := hstarts t ht
    exact Nat.le_trans hi hplace
  have hsteps : 2 * unseen (Array.replicate (program.size * (text.size + 1)) false) +
      front.length + 0 < 2 * (program.size * (text.size + 1)) + (front ++ rest).length + 1 := by
    rw [unseen_replicate, List.length_append]
    omega
  rcases runThreads_front forward_zero (fun _ _ => Nat.zero_le _) hplaces (closed_replicate front)
      hsteps with
    ⟨t, ⟨t₀, hmem, ht⟩, hrun⟩ | ⟨seen', hclosed, -, hall, -⟩
  · obtain ⟨i, hlow, hhigh, rfl⟩ := hstarts t₀ hmem
    exact ⟨t, i, hrun rest, hlow, hhigh, ht⟩
  · have hmem : (⟨0, place, []⟩ : Thread) ∈ front := by
      rw [← hfront]
      refine List.mem_map.2 ⟨place - start, List.mem_range.2 (by omega), ?_⟩
      rw [Nat.add_sub_cancel' hstart]
    exact absurd hu (hclosed.not_comesTo forward_zero (Nat.zero_le _) hplace (hall _ hmem))

/-- The groups of an expression are numbered from one, because group 0 is the match. -/
theorem allGroups_of_read {cs : List Char} {e : Expr} (h : Expr.read cs = .ok e) :
    e.AllGroups fun i _ => 0 < i := by
  obtain ⟨last, hrun, -, rfl⟩ := Reader.exists_run_of_read h
  have hcounted := Reader.counted_run ⟨by simp, by simp, by simp⟩ hrun
  exact hcounted.body.mono fun _ _ hi => hi.1

theorem records_of_compile {s : String} {re : Regex} (h : compile s = .ok re) :
    re.pattern.Records (0 < ·) := by
  obtain ⟨e, ps, f, hread, hps, hpattern, -⟩ := exists_branches_of_compile h
  rw [hpattern]
  exact .choose (Expr.records_of_branches (allGroups_of_read hread) hps)

/-- Where a regular expression can match from a place on, a search that begins there or before it
finds a match that begins at this place or before it. -/
theorem exists_search_of_canMatch {source s : String} {re : Regex} (h : compile source = .ok re)
    {start i j : ℕ} (hmatch : re.CanMatch s i j) (hstart : start ≤ i)
    (hi : i ≤ s.toList.toArray.size) :
    ∃ a b, (search re.program s.toList.toArray start).bind (·.group 0) = some (a, b) ∧
      start ≤ a ∧ a ≤ i ∧ re.CanMatch s a b := by
  obtain ⟨n, u, hrun, hacc, -⟩ := hmatch
  obtain ⟨t, a, ht, hlow, hhigh, k, hk, hacc'⟩ :=
    exists_search_of_comesTo hstart hi ⟨n, hrun, hacc⟩
  refine ⟨a, t.place, ?_, hlow, hhigh, k, t, hk, hacc', rfl⟩
  rw [ht, Option.bind_some]
  rw [program_of_compile h] at hk hacc'
  exact group_of_capture (records_of_compile h) (Nat.lt_irrefl 0) (matches_of_run hk hacc')

end PatternGrammar.Regex
