import PatternGrammar.Proofs.Regex.Anchoring

/-!
# The alternative that is preferred

The machine of a choice has the code of the alternatives one after another. It comes to the next one
only when all that the one before it leads to has been visited and does not accept. The visited
states do no harm there, because code never leads back to instructions before it (`ahead_code`). So
of alternatives between anchors the first one that matches a whole text is the one that takes it.

Main results:

* `runThreads_ofAlternatives`: a run of a choice is a run of its first alternative that accepts.
* `named_first`: of alternatives with names the first one that matches the whole text takes it.
-/

namespace PatternGrammar.Regex

open Reader Pattern
open PatternGrammar.Text (Span)

variable {program : Program} {text : Array Char} {seen : Array Bool} {a b : Cursor} {t t' u : Thread}
  {start stop low n : ℕ}

/-! ## Code leads forward -/

/-- No target of the instruction lies before the address. -/
def Instr.Above (low : ℕ) : Instr → Prop
  | split preferred other => low ≤ preferred ∧ low ≤ other
  | jump target => low ≤ target
  | _ => True

/-- No target of the instructions lies before the address. -/
def Ahead (low : ℕ) (code : List Instr) : Prop :=
  ∀ instr ∈ code, instr.Above low

theorem Ahead.mono {low' : ℕ} {code : List Instr} (h : Ahead low' code) (hle : low ≤ low') :
    Ahead low code := by
  intro instr hinstr
  have habove := h instr hinstr
  cases instr with
  | split preferred other => exact ⟨Nat.le_trans hle habove.1, Nat.le_trans hle habove.2⟩
  | jump target => exact Nat.le_trans hle habove
  | _ => trivial

theorem ahead_nil : Ahead low [] := by
  simp [Ahead]

theorem Ahead.cons {instr : Instr} {code : List Instr} (h : instr.Above low) (hcode : Ahead low code) :
    Ahead low (instr :: code) :=
  List.forall_mem_cons.2 ⟨h, hcode⟩

theorem Ahead.append {front back : List Instr} (hfront : Ahead low front) (hback : Ahead low back) :
    Ahead low (front ++ back) :=
  List.forall_mem_append.2 ⟨hfront, hback⟩

theorem above_branch (greedy : Bool) {inside out : ℕ} (hinside : low ≤ inside) (hout : low ≤ out) :
    (branch greedy inside out).Above low := by
  unfold branch
  split
  · exact ⟨hinside, hout⟩
  · exact ⟨hout, hinside⟩

section

variable {code : ℕ → List Instr}

theorem ahead_copies (hcode : ∀ s, Ahead s (code s)) (n start : ℕ) :
    Ahead start (copies code n start) := by
  induction n generalizing start with
  | zero => exact ahead_nil
  | succ n ih => exact (hcode start).append ((ih _).mono (Nat.le_add_right _ _))

theorem ahead_optionalCopies (hcode : ∀ s, Ahead s (code s)) (greedy : Bool) (n start : ℕ) :
    Ahead start (optionalCopies code greedy n start) := by
  induction n generalizing start with
  | zero => exact ahead_nil
  | succ n ih =>
    refine .append (.cons (above_branch greedy (by omega) (by omega)) ?_) ?_
    · exact (hcode _).mono (Nat.le_add_right _ _)
    · exact (ih _).mono (by omega)

theorem ahead_loop (hcode : ∀ s, Ahead s (code s)) (greedy : Bool) (start : ℕ) :
    Ahead start (loop code greedy start) :=
  (hcode start).append (.cons (above_branch greedy (Nat.le_refl _) (by omega)) ahead_nil)

end

/-- The code of a pattern does not lead back to instructions before it. -/
theorem ahead_code (p : Pattern) (start : ℕ) : Ahead start (p.code start) := by
  induction p generalizing start with
  | empty => exact ahead_nil
  | literal cs => exact List.forall_mem_map.2 fun _ _ => trivial
  | chars set _ => exact .cons trivial ahead_nil
  | look l => exact .cons trivial ahead_nil
  | seq first rest ihf ihr => exact (ihf start).append ((ihr _).mono (Nat.le_add_right _ _))
  | choice first rest ihf ihr =>
    rw [Pattern.code]
    refine .append (.cons ?_ ((ihf _).mono (Nat.le_add_right _ _)))
      (.cons ?_ ((ihr _).mono (by omega)))
    · exact ⟨by omega, by omega⟩
    · show start ≤ _
      omega
  | «repeated» body min max greedy ih =>
    cases max with
    | some max =>
      rw [Pattern.code]
      exact (ahead_copies ih min start).append
        ((ahead_optionalCopies ih greedy _ _).mono (Nat.le_add_right _ _))
    | none =>
      cases min with
      | zero =>
        refine .cons (above_branch greedy (by omega) (by omega)) ?_
        exact (ahead_loop ih greedy _).mono (Nat.le_add_right _ _)
      | succ n =>
        exact (ahead_copies ih n start).append
          ((ahead_loop ih greedy _).mono (Nat.le_add_right _ _))
  | capture index body ih =>
    exact .append (.cons trivial ((ih _).mono (Nat.le_add_right _ _))) (.cons trivial ahead_nil)

theorem exists_instr_of_codeAt {code : List Instr} {pc : ℕ} (h : CodeAt program start code)
    (hlow : start ≤ pc) (hhigh : pc < start + code.length) :
    ∃ instr ∈ code, program[pc]? = some instr := by
  induction code generalizing start with
  | nil => simp at hhigh; omega
  | cons instr code ih =>
    rw [List.length_cons] at hhigh
    rcases Nat.eq_or_lt_of_le hlow with rfl | hlt
    · exact ⟨instr, List.mem_cons_self, h.1⟩
    · obtain ⟨instr', hmem, hpc⟩ := ih h.2 hlt (by omega)
      exact ⟨instr', List.mem_cons_of_mem _ hmem, hpc⟩

theorem le_pc_of_mem_successors {instr : Instr} (habove : instr.Above low) (hlow : low ≤ t.pc)
    (h : t' ∈ t.successors text instr) : low ≤ t'.pc := by
  unfold Thread.successors at h
  split at h
  · split at h
    · split at h
      · obtain rfl := List.mem_singleton.1 h
        exact Nat.le_succ_of_le hlow
      · simp at h
    · simp at h
  · split at h
    · obtain rfl := List.mem_singleton.1 h
      exact Nat.le_succ_of_le hlow
    · simp at h
  · obtain rfl := List.mem_singleton.1 h
    exact Nat.le_succ_of_le hlow
  · simp only [List.mem_cons, List.not_mem_nil, or_false] at h
    rcases h with rfl | rfl
    · exact habove.1
    · exact habove.2
  · obtain rfl := List.mem_singleton.1 h
    exact habove
  · simp at h

theorem Forward.prepend {code : List Instr} (h : Forward program text (start + code.length))
    (hcode : CodeAt program start code) (hahead : Ahead start code) :
    Forward program text start := by
  intro t t' hlow hstep
  by_cases hlt : t.pc < start + code.length
  · obtain ⟨instr, hmem, hpc⟩ := exists_instr_of_codeAt hcode hlow hlt
    obtain ⟨instr', hpc', ht'⟩ := hstep
    rw [hpc] at hpc'
    obtain rfl := Option.some.inj hpc'
    exact le_pc_of_mem_successors (hahead instr hmem) hlow ht'
  · exact Nat.le_trans (Nat.le_add_right _ _) (h t t' (Nat.le_of_not_lt hlt) hstep)

theorem forward_size : Forward program text program.size := by
  rintro t t' hlow ⟨instr, hpc, -⟩
  rw [Array.getElem?_eq_none hlow] at hpc
  simp at hpc

theorem forward_code {p : Pattern} (hcode : CodeAt program start (p.code start))
    (h : Forward program text (start + (p.code start).length)) : Forward program text start :=
  h.prepend hcode (ahead_code p start)

/-! ## Turns in front of other threads -/

/-- From the address on visited states lead to nothing, and there are turns enough for all other
states and for so many threads. -/
structure Ready (program : Program) (text : Array Char) (low : ℕ) (seen : Array Bool)
    (waiting n : ℕ) : Prop where
  closed : Closed program text low seen []
  enough : 2 * unseen seen + waiting < n

namespace Ready

variable {waiting : ℕ}

/-- A thread that comes to accept later is not passed over. -/
theorem turn {next : List Thread} (h : Ready program text t.pc seen waiting n)
    (hforward : Forward program text t.pc) (ht : t.place ≤ text.size)
    (hnext : follow program text t = next) (hne : next ≠ []) (hu : ComesTo program text t u) :
    ∃ seen' m, Ready program text (t.pc + 1) seen' (waiting + 1) m ∧
      ∀ rest, runThreads program text n (t :: rest) seen =
        runThreads program text m (next ++ rest) seen' := by
  have henough := h.enough
  cases n with
  | zero => omega
  | succ m =>
    have hseen : ¬Seen text seen t.state := fun hseen =>
      h.closed.not_comesTo hforward (Nat.le_refl _) ht hseen hu
    have haccepts : ¬Accepts program t := fun haccepts => hne <| by
      rw [← hnext, follow, haccepts]
      rfl
    have hused := unseen_mark hseen
    refine ⟨mark text seen t.state, m, ⟨?_, by omega⟩,
      fun rest => hnext ▸ runThreads_visit m rest hseen haccepts⟩
    exact (h.closed.mono (Nat.le_succ _)).visit_below ht (Nat.lt_succ_self _)

/-- A thread in front of all others gives the result, or it does not come to accept and the run goes
on with the others. -/
theorem work_off (h : Ready program text low seen (waiting + 1) n)
    (hforward : Forward program text low) (hlow : low ≤ t.pc) (ht : t.place ≤ text.size) :
    (∃ u, ComesTo program text t u ∧ ∀ rest, runThreads program text n (t :: rest) seen = some u) ∨
    (∀ u, ¬ComesTo program text t u) ∧ ∃ seen' m, Ready program text low seen' waiting m ∧
      ∀ rest, runThreads program text n (t :: rest) seen = runThreads program text m rest seen' := by
  have henough : 2 * unseen seen + [t].length + waiting < n := by
    rw [List.length_singleton, Nat.add_assoc, Nat.add_comm 1]
    exact h.enough
  rcases runThreads_front hforward (List.forall_mem_singleton.2 hlow)
      (List.forall_mem_singleton.2 ht) (h.closed.wait [t]) henough with
    ⟨u, ⟨t₀, hmem, hu⟩, hrun⟩ | ⟨seen', hclosed, -, hall, m, hm, hrun⟩
  · obtain rfl := List.mem_singleton.1 hmem
    exact .inl ⟨u, hu, hrun⟩
  · have hseen := List.forall_mem_singleton.1 hall
    exact .inr ⟨fun u => hclosed.not_comesTo hforward hlow ht hseen, seen', m, ⟨hclosed, hm⟩, hrun⟩

end Ready

/-! ## Threads that come to accept -/

theorem comesTo_iff {R : Cursor → Cursor → Prop} (hpasses : Passes program text start stop R)
    (hreaches : Reaches program text start stop R) :
    ComesTo program text (a.thread start) t ↔
      ∃ b, R a b ∧ ComesTo program text (b.thread stop) t := by
  constructor
  · rintro ⟨k, hrun, haccepts⟩
    obtain ⟨m, -, b, hb, hrest⟩ := hpasses k a t hrun haccepts
    exact ⟨b, hb, m, hrest, haccepts⟩
  · rintro ⟨b, hb, m, hrest, haccepts⟩
    obtain ⟨k, hrun⟩ := hreaches a b hb
    exact ⟨k + m, hrun.add hrest, haccepts⟩

/-- The pattern matches, and from the address the thread then comes to accept. -/
def Completes (program : Program) (text : Array Char) (stop : ℕ) (p : Pattern) (a : Cursor)
    (t : Thread) : Prop :=
  ∃ b, p.Matches text a b ∧ ComesTo program text (b.thread stop) t

theorem completes_ofAlternatives {front back : List Pattern} {p : Pattern}
    (h : Completes program text stop p a t) :
    Completes program text stop (ofAlternatives (front ++ p :: back)) a t := by
  obtain ⟨b, hb, hcomes⟩ := h
  exact ⟨b, matches_ofAlternatives.2 ⟨p, by simp, hb⟩, hcomes⟩

theorem comesTo_code_iff {p : Pattern} (h : CodeAt program start (p.code start)) :
    ComesTo program text (a.thread start) t ↔
      Completes program text (start + (p.code start).length) p a t :=
  comesTo_iff (passes_code p h) (reaches_code p h)

theorem comesTo_accept_iff (h : program[start]? = some .accept) :
    ComesTo program text (a.thread start) t ↔ t = a.thread start := by
  constructor
  · rintro ⟨k, hrun, -⟩
    exact eq_of_times_accept h hrun
  · rintro rfl
    exact ⟨0, rfl, h⟩

/-! ## Choices -/

/-- The machine tries the first alternative, and the others wait. -/
theorem exists_turn_of_choice {first rest : Pattern} {waiting : ℕ}
    (hcode : CodeAt program start ((choice first rest).code start))
    (hstop : start + ((choice first rest).code start).length = stop)
    (hforward : Forward program text stop) (hready : Ready program text start seen waiting n)
    (ha : a.place ≤ text.size) (hu : Completes program text stop (choice first rest) a u) :
    ∃ mid m seen', CodeAt program mid (rest.code mid) ∧ mid + (rest.code mid).length = stop ∧
      start < mid ∧ Ready program text (start + 1) seen' (waiting + 1) m ∧
      Forward program text (start + 1) ∧
      (∀ v, ComesTo program text (a.thread (start + 1)) v ↔ Completes program text stop first a v) ∧
      ∀ others, runThreads program text n (a.thread start :: others) seen =
        runThreads program text m (a.thread (start + 1) :: a.thread mid :: others) seen' := by
  obtain ⟨mid, hsplit, hfirst, hjump, hmid, hrest, hend⟩ := codeAt_choice hcode
  rw [hstop] at hjump hend
  have hcomes : ComesTo program text (a.thread start) u := by
    rwa [comesTo_code_iff hcode, hstop]
  have hstart : Forward program text start := forward_code hcode (hstop ▸ hforward)
  have hmiddle : Forward program text mid := forward_code hrest (hend ▸ hforward)
  have hinside : Forward program text (start + 1) := by
    have hout : CodeAt program (start + 1 + (first.code (start + 1)).length) [.jump stop] :=
      ⟨hjump, trivial⟩
    refine forward_code hfirst (Forward.prepend ?_ hout (.cons ?_ ahead_nil))
    · rwa [List.length_singleton, hmid]
    · show _ ≤ stop
      omega
  have hnext : follow program text (a.thread start) = [a.thread (start + 1), a.thread mid] := by
    rw [follow, Cursor.thread, hsplit]
    rfl
  obtain ⟨seen', m, hready', hrun⟩ := hready.turn hstart ha hnext (by simp) hcomes
  refine ⟨mid, m, seen', hrest, hend, by omega, hready', hinside, fun v => ?_, hrun⟩
  rw [comesTo_code_iff hfirst]
  exact exists_congr fun b => and_congr_right fun _ => by
    rw [comesTo_iff (passes_jump hjump) (reaches_jump hjump)]
    simp

theorem ofAlternatives_cons {p : Pattern} {ps : List Pattern} (h : ps ≠ []) :
    ofAlternatives (p :: ps) = choice p (ofAlternatives ps) := by
  cases ps with
  | nil => exact absurd rfl h
  | cons q ps => rfl

/-- A run that begins in front of a choice is a run of the first alternative that comes to accept. -/
theorem runThreads_ofAlternatives {front back : List Pattern} {p : Pattern} {waiting : ℕ}
    (hcode : CodeAt program start ((ofAlternatives (front ++ p :: back)).code start))
    (hstop : start + ((ofAlternatives (front ++ p :: back)).code start).length = stop)
    (hforward : Forward program text stop)
    (hready : Ready program text start seen (waiting + 1) n) (ha : a.place ≤ text.size)
    (hfront : ∀ q ∈ front, ∀ v, ¬Completes program text stop q a v)
    (hp : Completes program text stop p a u) :
    ∃ v, Completes program text stop p a v ∧
      ∀ others, runThreads program text n (a.thread start :: others) seen = some v := by
  have hchoice : Completes program text stop (ofAlternatives (front ++ p :: back)) a u :=
    completes_ofAlternatives hp
  induction front generalizing start seen n waiting with
  | nil =>
    cases back with
    | nil =>
      -- the last alternative stands at the start itself, with no split in front of it
      have hcomes : ∀ v, ComesTo program text (a.thread start) v ↔
          Completes program text stop p a v := fun v => by
        rw [← hstop]
        exact comesTo_code_iff hcode
      have hstart : Forward program text start := forward_code hcode (hstop ▸ hforward)
      rcases hready.work_off (t := a.thread start) hstart (Nat.le_refl _) ha with
        ⟨v, hv, hrun⟩ | ⟨hnone, -⟩
      · exact ⟨v, (hcomes v).1 hv, hrun⟩
      · exact absurd ((hcomes u).2 hp) (hnone u)
    | cons q back =>
      obtain ⟨mid, m, seen', -, -, -, hready', hinside, hcomes, hrun⟩ :=
        exists_turn_of_choice hcode hstop hforward hready ha hchoice
      rcases hready'.work_off (t := a.thread (start + 1)) hinside (Nat.le_refl _) ha with
        ⟨v, hv, hrun'⟩ | ⟨hnone, -⟩
      · exact ⟨v, (hcomes v).1 hv, fun others => (hrun others).trans (hrun' _)⟩
      · exact absurd ((hcomes u).2 hp) (hnone u)
  | cons q front ih =>
    obtain ⟨hq, hfront⟩ := List.forall_mem_cons.1 hfront
    have hne : front ++ p :: back ≠ [] := by simp
    rw [List.cons_append, ofAlternatives_cons hne] at hcode hstop hchoice
    obtain ⟨mid, m, seen', hrest, hend, hmid, hready', hinside, hcomes, hrun⟩ :=
      exists_turn_of_choice hcode hstop hforward hready ha hchoice
    rcases hready'.work_off (t := a.thread (start + 1)) hinside (Nat.le_refl _) ha with
      ⟨v, hv, -⟩ | ⟨-, seen'', k, hready'', hrun'⟩
    · exact absurd ((hcomes v).1 hv) (hq v)
    -- what the first alternative has visited lies before the others or is closed from there on
    · obtain ⟨v, hv, hrun''⟩ := ih hrest hend ⟨hready''.closed.mono hmid, hready''.enough⟩ hfront
        (completes_ofAlternatives hp)
      exact ⟨v, hv, fun others => ((hrun others).trans (hrun' _)).trans (hrun'' others)⟩

/-! ## Choices between anchors -/

theorem codeAt_between_anchors {p : Pattern}
    (hprogram : program = (seq (look .start) (seq p (look .stop))).program) :
    program[0]? = some (.save 0) ∧ program[1]? = some (.look .start) ∧
      CodeAt program 2 (p.code 2) ∧
      CodeAt program (2 + (p.code 2).length) [.look .stop, .save 1, .accept] ∧
      2 + (p.code 2).length + 3 = program.size := by
  have hcode : CodeAt program 0
      ((capture 0 (seq (look .start) (seq p (look .stop)))).code 0 ++ [.accept]) := by
    rw [hprogram, Pattern.program]
    simpa using codeAt_toArray [] ((capture 0 (seq (look .start) (seq p (look .stop)))).code 0 ++
      [.accept]) []
  simp only [Pattern.code, List.cons_append, List.nil_append, List.append_assoc, CodeAt,
    codeAt_append, List.length_cons, List.length_nil, Nat.zero_add, Nat.reduceAdd] at hcode
  obtain ⟨hsave, hlook, hp, hstop⟩ := hcode
  refine ⟨hsave, hlook, hp, hstop, ?_⟩
  simp only [hprogram, Pattern.program, Pattern.code, List.size_toArray, List.cons_append,
    List.nil_append, List.length_append, List.length_cons, List.length_nil, Nat.zero_add, Nat.reduceAdd]
  omega

/-- Behind an anchored pattern a thread accepts at the end of the text. -/
theorem comesTo_stop_iff (h : CodeAt program stop [.look .stop, .save 1, .accept]) :
    ComesTo program text (b.thread stop) t ↔
      b.place = text.size ∧ t = (b.record 1).thread (stop + 2) := by
  obtain ⟨hlook, hsave, haccept, -⟩ := h
  rw [comesTo_iff ((passes_look hlook).comp (passes_save hsave))
    ((reaches_look hlook).comp (reaches_save hsave))]
  simp only [comesTo_accept_iff haccept, Look.holds, beq_iff_eq]
  constructor
  · rintro ⟨_, ⟨_, ⟨hplace, rfl⟩, rfl⟩, ht⟩
    exact ⟨hplace, ht⟩
  · rintro ⟨hplace, ht⟩
    exact ⟨_, ⟨b, ⟨hplace, rfl⟩, rfl⟩, ht⟩

theorem completes_stop_iff {p : Pattern}
    (h : CodeAt program stop [.look .stop, .save 1, .accept]) :
    Completes program text stop p a t ↔
      ∃ b, p.Matches text a b ∧ b.place = text.size ∧ t = (b.record 1).thread (stop + 2) := by
  simp only [Completes, comesTo_stop_iff h]

theorem forward_stop (h : CodeAt program stop [.look .stop, .save 1, .accept])
    (hsize : stop + 3 = program.size) : Forward program text stop := by
  refine Forward.prepend ?_ h (.cons trivial (.cons trivial (.cons trivial ahead_nil)))
  show Forward program text (stop + 3)
  rw [hsize]
  exact forward_size

/-- A search from the start of a text begins with the thread that stands there. -/
theorem exists_ready (program : Program) (text : Array Char) :
    ∃ seen n others, Ready program text 0 seen 0 n ∧
      search program text 0 = runThreads program text n (⟨0, 0, []⟩ :: others) seen := by
  have hstarts : (List.range (text.size + 1 - 0)).map (fun i => (⟨0, 0 + i, []⟩ : Thread)) =
      ⟨0, 0, []⟩ :: (List.range text.size).map fun i => ⟨0, 0 + (i + 1), []⟩ := by
    rw [Nat.sub_zero, List.range_succ_eq_map, List.map_cons, List.map_map]
    rfl
  rw [search, hstarts]
  refine ⟨_, _, _, ⟨closed_replicate [], ?_⟩, rfl⟩
  rw [unseen_replicate]
  omega

/-- The first two turns of a search record where the match begins and test that this is the start of
the text. -/
theorem exists_ready_inside (hsave : program[0]? = some (.save 0))
    (hlook : program[1]? = some (.look .start)) (hforward : Forward program text 2)
    (hu : ComesTo program text ⟨2, 0, [(0, 0)]⟩ u) :
    ∃ seen n others, Ready program text 2 seen 2 n ∧
      search program text 0 = runThreads program text n (⟨2, 0, [(0, 0)]⟩ :: others) seen := by
  have hfollow : follow program text ⟨0, 0, []⟩ = [⟨1, 0, [(0, 0)]⟩] := by
    rw [follow, hsave]
    rfl
  have hfollow' : follow program text ⟨1, 0, [(0, 0)]⟩ = [⟨2, 0, [(0, 0)]⟩] := by
    rw [follow, hlook]
    rfl
  have hu' : ComesTo program text ⟨1, 0, [(0, 0)]⟩ u :=
    hu.prepend (mem_follow_iff.1 (hfollow' ▸ List.mem_cons_self))
  have hstart : ComesTo program text ⟨0, 0, []⟩ u :=
    hu'.prepend (mem_follow_iff.1 (hfollow ▸ List.mem_cons_self))
  have hcode : CodeAt program 1 [.look .start] := ⟨hlook, trivial⟩
  have hforward' : Forward program text 1 := hforward.prepend hcode (.cons trivial ahead_nil)
  obtain ⟨seen, n, others, hready, hsearch⟩ := exists_ready program text
  obtain ⟨seen', m, hready', hrun⟩ :=
    hready.turn (t := ⟨0, 0, []⟩) forward_zero (Nat.zero_le _) hfollow (by simp) hstart
  obtain ⟨seen'', k, hready'', hrun'⟩ :=
    hready'.turn (t := ⟨1, 0, [(0, 0)]⟩) hforward' (Nat.zero_le _) hfollow' (by simp) hu'
  exact ⟨seen'', k, others, hready'', hsearch.trans ((hrun others).trans (hrun' others))⟩

/-- Of alternatives between anchors a search takes the first one that matches the whole text. -/
theorem search_first {front back : List Pattern} {p : Pattern}
    (hprogram : program =
      (seq (look .start) (seq (ofAlternatives (front ++ p :: back)) (look .stop))).program)
    (hfront : ∀ q ∈ front, ¬q.Spans text 0 text.size) (hp : p.Spans text 0 text.size) :
    ∃ t b, search program text 0 = some t ∧ p.Matches text ⟨0, [(0, 0)]⟩ b ∧
      b.place = text.size ∧ t.cursor = b.record 1 := by
  obtain ⟨hsave, hlook, hcode, hend, hsize⟩ := codeAt_between_anchors hprogram
  generalize hstop : 2 + ((ofAlternatives (front ++ p :: back)).code 2).length = stop at hend hsize
  have hforward : Forward program text stop := forward_stop hend hsize
  obtain ⟨s', hs'⟩ := (spans_iff _).1 hp
  have hfirst := (completes_stop_iff hend).2 ⟨_, hs', rfl, rfl⟩
  have hnone : ∀ q ∈ front, ∀ v, ¬Completes program text stop q ⟨0, [(0, 0)]⟩ v := by
    intro q hq v hv
    obtain ⟨⟨_, saved⟩, hb, rfl, -⟩ := (completes_stop_iff hend).1 hv
    exact hfront q hq ((spans_iff _).2 ⟨saved, hb⟩)
  have hchoice := (hstop ▸ comesTo_code_iff hcode).2 (completes_ofAlternatives hfirst)
  obtain ⟨seen, n, others, hready, hsearch⟩ :=
    exists_ready_inside hsave hlook (forward_code hcode (hstop ▸ hforward)) hchoice
  obtain ⟨t, ht, hrun⟩ := runThreads_ofAlternatives hcode hstop hforward hready (Nat.zero_le _)
    hnone hfirst
  obtain ⟨b, hb, hplace, rfl⟩ := (completes_stop_iff hend).1 ht
  exact ⟨_, b, hsearch.trans (hrun others), hb, hplace, rfl⟩

/-! ## Alternatives with names -/

theorem choose_captures {row : List (ℕ × Pattern)} (hrow : row ≠ []) :
    choose (captures row) = ofAlternatives (captures row) := by
  have halternatives : (captures row).flatMap alternatives = captures row := by
    rw [captures, List.flatMap_map]
    exact List.map_eq_flatMap.symm
  match row, hrow, halternatives with
  | [x], _, _ => rfl
  | x :: y :: row, _, halternatives =>
    have hset : chooseSet? (captures (x :: y :: row)) = none := by
      simp [chooseSet?, captures, letter?, set?]
    have hfactor : factorOut? (captures (x :: y :: row)) = none := by
      simp [factorOut?, captures, factors]
    show (chooseSet? ((captures (x :: y :: row)).flatMap alternatives) <|>
      factorOut? ((captures (x :: y :: row)).flatMap alternatives)).getD
        (ofAlternatives ((captures (x :: y :: row)).flatMap alternatives)) = _
    rw [halternatives, hset, hfactor]
    rfl

theorem join_captures {row : List (ℕ × Pattern)} (hrow : row ≠ []) :
    (look .start).join ((ofAlternatives (captures row)).join (look .stop)) =
      seq (look .start) (seq (ofAlternatives (captures row)) (look .stop)) := by
  match row, hrow with
  | [x], _ => rfl
  | x :: y :: row, _ => rfl

variable {re : Regex} {source input : String} {named : List (String × List Char)}
  {res : List Regex} {groups : List (Option Span)}

/-- A pattern of a row matches the whole text where the regular expression of its part does. -/
theorem matchesWhole_of_inlines {parts : List (Option String × List Char)} {qs : List Pattern}
    (hown : List.Forall₂ OwnRegex parts res)
    (hqs : List.Forall₂ (fun part q => Inlines part.2 q) parts qs) (input : String) :
    List.Forall₂ (fun r q => r.MatchesWhole input ↔
      q.Spans input.toList.toArray 0 input.toList.toArray.size) res qs := by
  induction hown generalizing qs with
  | nil => cases hqs; exact .nil
  | cons hpart _ ih =>
    cases hqs with
    | cons hq hqs =>
      refine .cons ?_ (ih hqs)
      rw [MatchesWhole, canMatch_iff (program_of_compile hpart),
        hq _ _ String.toList_ofList hpart]
      simp

/-- The first elements of two rows with properties that agree stand at the same place. -/
theorem exists_first {α β : Type} {P : α → Prop} {Q : β → Prop} {as : List α} {bs : List β}
    (h : List.Forall₂ (fun a b => P a ↔ Q b) as bs) (hQ : ∃ b ∈ bs, Q b) :
    ∃ front x back front' y back', as = front ++ x :: back ∧ bs = front' ++ y :: back' ∧
      front.length = front'.length ∧ back.length = back'.length ∧
      P x ∧ Q y ∧ (∀ z ∈ front, ¬P z) ∧ ∀ z ∈ front', ¬Q z := by
  induction h with
  | nil => simp at hQ
  | @cons a b as bs hab hrest ih =>
    by_cases hb : Q b
    · exact ⟨[], a, as, [], b, bs, rfl, rfl, rfl, hrest.length_eq, hab.2 hb, hb, by simp, by simp⟩
    · obtain ⟨front, x, back, front', y, back', rfl, rfl, hfront, hback, hx, hy, hnot, hnot'⟩ :=
        ih (by simpa [hb] using hQ)
      exact ⟨a :: front, x, back, b :: front', y, back', rfl, rfl, congrArg (· + 1) hfront, hback,
        hx, hy, List.forall_mem_cons.2 ⟨fun ha => hb (hab.1 ha), hnot⟩,
        List.forall_mem_cons.2 ⟨hb, hnot'⟩⟩

/-- Of alternatives that match a whole text the group of the first one that does takes the text, and
the others take no part. -/
theorem named_first (h : compile source = .ok re) (hne : named ≠ [])
    (hsource : source.toList = anchor (wrapBarred (nameParts named)))
    (hnamed : ∀ x ∈ named, Wrappable (some x.1) x.2)
    (hown : List.Forall₂ OwnRegex (nameParts named) res)
    (hgroups : re.named (named.map Prod.fst) input = some groups) :
    ∃ front r back, res = front ++ r :: back ∧ r.MatchesWhole input ∧
      (∀ r' ∈ front, ¬r'.MatchesWhole input) ∧
      groups = List.replicate front.length none ++
        some (byteSpan (offsets input.toList) (0, input.toList.length)) ::
          List.replicate back.length none := by
  obtain ⟨row, hpattern, hnumbered, hlookup, hinlines⟩ := exists_row_of_barred h hne hsource hnamed
  have hrow : row ≠ [] := by
    rintro rfl
    exact hne (List.forall₂_nil_right_iff.1 hlookup)
  have hsome : ∃ x ∈ row, (capture x.1 x.2).Spans input.toList.toArray 0
      input.toList.toArray.size := by
    obtain ⟨place, ⟨_, saved⟩, hb, -⟩ := exists_match_of_named (program_of_compile h) hgroups
    rw [hpattern] at hb
    obtain ⟨rfl, hb, rfl⟩ := matches_between_anchors.1 hb
    obtain ⟨q, hq, hmatch⟩ := matches_choose.1 hb
    obtain ⟨x, hx, rfl⟩ := List.mem_map.1 hq
    exact ⟨x, hx, (spans_iff _).2 ⟨saved, hmatch⟩⟩
  have hwhole := List.forall₂_map_right_iff.1 (matchesWhole_of_inlines hown hinlines input)
  obtain ⟨front, r, back, front', x, back', rfl, rfl, hfront, hback, hr, hx, hnot, hnot'⟩ :=
    exists_first hwhole hsome
  have hprogram : re.program = (seq (look .start) (seq (ofAlternatives
      (captures front' ++ capture x.1 x.2 :: captures back')) (look .stop))).program := by
    rw [program_of_compile h, hpattern, choose_captures hrow, join_captures hrow, captures,
      List.map_append, List.map_cons]
    rfl
  obtain ⟨t, b, ht, hb, hplace, hcursor⟩ :=
    search_first hprogram (List.forall_mem_map.2 hnot') hx
  obtain ⟨hgroup, hothers, -⟩ :=
    hnumbered.taken rfl (fun y hy => group_start (hnumbered.low_le y hy)) hb
  rw [named_of_search ht hcursor, map_taken_eq hlookup hnumbered.low_le hgroup hothers] at hgroups
  refine ⟨front, r, back, rfl, hr, hnot, ?_⟩
  rw [← Option.some.inj hgroups, hfront, hback, hplace, List.size_toArray]

end PatternGrammar.Regex
