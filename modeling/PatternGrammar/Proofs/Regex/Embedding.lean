import PatternGrammar.Proofs.Regex.Reader.Token
import PatternGrammar.Proofs.Regex.Renumbering

/-!
# Regular expressions in groups

A regular expression that can be read on its own is read the same in a group, as long as the whole
can be read: the reader goes through the same states, on top of what it has read before
(`Reader.State.inside`). Behind the closing parenthesis it then goes on with the group in its row
(`Reader.Finishes.closed`). A comment that is open at the end of the inner regular expression would
take the closing parenthesis; the whole could not be read then.
-/

namespace PatternGrammar.Regex.Reader

open Expr (shift)

/-! ## States inside of others -/

/-- The frame with the numbers of capturing groups raised. -/
def GroupFrame.shift (k : ℕ) (f : GroupFrame) : GroupFrame where
  kind := f.kind.shift k
  extended := f.extended
  items := f.items.map (Expr.shift k)
  branches := f.branches.map (Expr.shift k)

/-- The state after reading on from `outer`, where reading on its own comes to `st`. -/
def State.inside (outer st : State) : State where
  items := st.items.map (shift outer.groups)
  branches := st.branches.map (shift outer.groups)
  frames := st.frames.map (GroupFrame.shift outer.groups) ++ outer.frames
  extended := st.extended
  groups := outer.groups + st.groups
  names := st.names ++ outer.names

variable {outer st st' : State} {cs rest : List Char}

theorem State.inside_push (outer st : State) (e : Expr) :
    outer.inside (st.push e) = (outer.inside st).push (e.shift outer.groups) := rfl

theorem State.inside_nextBranch (outer st : State) :
    outer.inside st.nextBranch = (outer.inside st).nextBranch := by
  simp [inside, nextBranch, Expr.shift_ofSequence]

theorem State.body_inside (outer st : State) :
    (outer.inside st).body = st.body.shift outer.groups := by
  simp [body, inside, Expr.shift_ofAlternatives, Expr.shift_ofSequence]

theorem State.closeGroup_inside (h : st.closeGroup = .ok st') :
    (outer.inside st).closeGroup = .ok (outer.inside st') := by
  unfold closeGroup at h
  split at h
  · simp at h
  · rename_i f frames hframes
    obtain rfl := Except.ok.inj h
    have hinside : (outer.inside st).frames =
        f.shift outer.groups :: (frames.map (GroupFrame.shift outer.groups) ++ outer.frames) := by
      simp [inside, hframes]
    unfold closeGroup
    rw [hinside]
    dsimp only
    rw [body_inside]
    rfl

/-- An opening parenthesis means the same inside of another state, unless its name is taken there. -/
theorem State.applyOpening_inside {opening : Opening} {result : State}
    (h : st.applyOpening opening = .ok st')
    (hresult : (outer.inside st).applyOpening opening = .ok result) :
    result = outer.inside st' := by
  cases opening with
  | capture =>
    obtain rfl := Except.ok.inj h
    obtain rfl := Except.ok.inj hresult
    rfl
  | named name =>
    unfold applyOpening at h hresult
    dsimp only at h hresult
    split at h
    · simp at h
    · split at hresult
      · simp at hresult
      · obtain rfl := Except.ok.inj h
        obtain rfl := Except.ok.inj hresult
        rfl
  | plain changes =>
    obtain rfl := Except.ok.inj h
    obtain rfl := Except.ok.inj hresult
    rfl
  | directive changes =>
    obtain rfl := Except.ok.inj h
    obtain rfl := Except.ok.inj hresult
    rfl

theorem State.repeatLast_inside {min : ℕ} {max : Option ℕ} {greedy : Bool}
    (h : st.repeatLast min max greedy = .ok st') :
    (outer.inside st).repeatLast min max greedy = .ok (outer.inside st') := by
  unfold repeatLast at h
  split at h
  · simp at h
  · simp at h
  · simp at h
  · rename_i e items hempty hdirective hitems
    obtain rfl := Except.ok.inj h
    have hinside : (outer.inside st).items =
        e.shift outer.groups :: items.map (Expr.shift outer.groups) := by
      simp [inside, hitems]
    unfold repeatLast
    rw [hinside]
    cases e with
    | empty => exact (hempty rfl).elim
    | directive changes => exact (hdirective _ rfl).elim
    | _ => rfl

theorem shift_toExpr (k : ℕ) (atom : Atom) : shift k atom.toExpr = atom.toExpr := by
  cases atom <;> rfl

/-- A part is taken into account the same inside of another state, if it can be. -/
theorem State.take_inside {token : Token} {result : State} (h : st.take token = .ok st')
    (hresult : (outer.inside st).take token = .ok result) : result = outer.inside st' := by
  cases token with
  | opening opening => exact applyOpening_inside h hresult
  | closing => exact Except.ok.inj (hresult.symm.trans (closeGroup_inside h))
  | bar =>
    obtain rfl := Except.ok.inj h
    rw [inside_nextBranch]
    exact (Except.ok.inj hresult).symm
  | atom a =>
    obtain rfl := Except.ok.inj h
    rw [inside_push, shift_toExpr]
    exact (Except.ok.inj hresult).symm
  | bracketed c =>
    obtain rfl := Except.ok.inj h
    exact (Except.ok.inj hresult).symm
  | repetition min max greedy => exact Except.ok.inj (hresult.symm.trans (repeatLast_inside h))

/-- A step that goes well in both states does the same in both. -/
theorem step_inside {result : State × List Char} (h : step st cs = .ok (st', rest))
    (hresult : step (outer.inside st) cs = .ok result) : result = (outer.inside st', rest) := by
  obtain ⟨⟨token, left⟩, htoken, h⟩ := bind_eq_ok.1 h
  obtain ⟨st₁, hst₁, h⟩ := bind_eq_ok.1 h
  obtain ⟨rfl, rfl⟩ := Prod.mk.inj (Except.ok.inj h)
  obtain ⟨⟨token', left'⟩, htoken', hresult⟩ := bind_eq_ok.1 hresult
  obtain ⟨rfl, rfl⟩ := Prod.mk.inj (Except.ok.inj (htoken.symm.trans htoken'))
  obtain ⟨st₂, hst₂, hresult⟩ := bind_eq_ok.1 hresult
  rw [← State.take_inside hst₁ hst₂]
  exact (Except.ok.inj hresult).symm

/-! ## Whole texts -/

/-- A run is at its end, or takes a step. -/
theorem run_eq_ok {n : ℕ} {last : State} (h : run n st cs = .ok last) :
    (skip st.extended cs = [] ∧ last = st) ∨
      ∃ m c ds st₁ left, n = m + 1 ∧ skip st.extended cs = c :: ds ∧
        step st (c :: ds) = .ok (st₁, left) ∧ run m st₁ left = .ok last := by
  unfold run at h
  cases hds : skip st.extended cs with
  | nil =>
    rw [hds] at h
    exact .inl ⟨rfl, (Except.ok.inj h).symm⟩
  | cons c ds =>
    rw [hds] at h
    cases n with
    | zero => simp at h
    | succ n =>
      obtain ⟨⟨st₁, left⟩, hstep, h⟩ := bind_eq_ok.1 h
      exact .inr ⟨n, c, ds, st₁, left, rfl, rfl, hstep, h⟩

/-- The reader comes from a state to another one at the end of the text. -/
def Finishes (st : State) (cs : List Char) (fin : State) : Prop :=
  ∃ n, run n st cs = .ok fin

theorem run_skip (n : ℕ) (st : State) (cs : List Char) :
    run n st (skip st.extended cs) = run n st cs := by
  unfold run
  rw [skip_idem]

namespace Finishes

variable {fin : State}

theorem skipped (h : Finishes st cs fin) : Finishes st (skip st.extended cs) fin := by
  obtain ⟨n, hn⟩ := h
  exact ⟨n, (run_skip n st cs).trans hn⟩

theorem eq_of_nil (h : Finishes st cs fin) (hcs : skip st.extended cs = []) : fin = st := by
  obtain ⟨n, hn⟩ := h
  obtain ⟨-, rfl⟩ | ⟨m, c, ds, st₁, left, -, heq, -⟩ := run_eq_ok hn
  · rfl
  · rw [hcs] at heq
    simp at heq

/-- Where something is left to read, the reader takes a step. -/
theorem exists_step {c : Char} {ds : List Char} (h : Finishes st cs fin)
    (hcs : skip st.extended cs = c :: ds) :
    ∃ st' rest, step st (c :: ds) = .ok (st', rest) ∧ Finishes st' rest fin := by
  obtain ⟨n, hn⟩ := h
  obtain ⟨heq, -⟩ | ⟨m, c', ds', st₁, left, -, heq, hstep, hn⟩ := run_eq_ok hn
  · rw [hcs] at heq
    simp at heq
  · rw [hcs] at heq
    obtain ⟨rfl, rfl⟩ := List.cons.inj heq
    exact ⟨st₁, left, hstep, m, hn⟩

end Finishes

/-! ## Numbers and names of groups -/

/-- All capturing groups of a frame have a property. -/
structure GroupFrame.AllGroups (p : ℕ → Option String → Prop) (f : GroupFrame) : Prop where
  kind : f.kind.Satisfies p
  items : ∀ e ∈ f.items, e.AllGroups p
  branches : ∀ e ∈ f.branches, e.AllGroups p

/-- All capturing groups that were read have a property. -/
structure State.AllGroups (p : ℕ → Option String → Prop) (st : State) : Prop where
  items : ∀ e ∈ st.items, e.AllGroups p
  branches : ∀ e ∈ st.branches, e.AllGroups p
  frames : ∀ f ∈ st.frames, f.AllGroups p

/-- The group with this number has been counted, and its name is known. -/
def State.Counted (st : State) (i : ℕ) (name : Option String) : Prop :=
  0 < i ∧ i ≤ st.groups ∧ ∀ n ∈ name, n ∈ st.names

variable {p q : ℕ → Option String → Prop}

theorem State.AllGroups.mono (h : ∀ i name, p i name → q i name) (hst : st.AllGroups p) :
    st.AllGroups q where
  items e he := (hst.items e he).mono h
  branches e he := (hst.branches e he).mono h
  frames f hf := {
    kind := (hst.frames f hf).kind.mono h
    items := fun e he => ((hst.frames f hf).items e he).mono h
    branches := fun e he => ((hst.frames f hf).branches e he).mono h }

theorem State.AllGroups.row (hst : st.AllGroups p) :
    (Expr.ofSequence st.items.reverse).AllGroups p :=
  Expr.allGroups_ofSequence.2 fun e he => hst.items e (List.mem_reverse.1 he)

theorem State.AllGroups.body (hst : st.AllGroups p) : st.body.AllGroups p := by
  refine Expr.allGroups_ofAlternatives.2 fun e he => ?_
  rcases List.mem_cons.1 (List.mem_reverse.1 he) with rfl | he
  · exact hst.row
  · exact hst.branches e he

theorem State.AllGroups.openGroup {kind : GroupKind} (extended : Bool) (hst : st.AllGroups p)
    (hkind : kind.Satisfies p) : (st.openGroup kind extended).AllGroups p :=
  ⟨by simp [State.openGroup], by simp [State.openGroup],
    List.forall_mem_cons.2 ⟨⟨hkind, hst.items, hst.branches⟩, hst.frames⟩⟩

theorem allGroups_toExpr (a : Atom) : a.toExpr.AllGroups p := by
  cases a <;> trivial

/-- Each capturing group gets the next number when it is opened, and its name is remembered. -/
theorem State.counted_take {token : Token} (hst : st.AllGroups st.Counted)
    (h : st.take token = .ok st') : st'.AllGroups st'.Counted := by
  cases token with
  | opening opening =>
    cases opening with
    | capture =>
      obtain rfl := Except.ok.inj h
      have hmono : st.AllGroups (State.Counted { st with groups := st.groups + 1 }) :=
        hst.mono fun i name hi => ⟨hi.1, Nat.le_succ_of_le hi.2.1, hi.2.2⟩
      exact State.AllGroups.openGroup _ ⟨hmono.items, hmono.branches, hmono.frames⟩
        ⟨Nat.succ_pos _, Nat.le_refl _, by simp⟩
    | named name =>
      simp only [take, applyOpening] at h
      split at h
      · simp at h
      · obtain rfl := Except.ok.inj h
        have hmono : st.AllGroups
            (State.Counted { st with groups := st.groups + 1, names := name :: st.names }) :=
          hst.mono fun i name hi =>
            ⟨hi.1, Nat.le_succ_of_le hi.2.1, fun n hn => List.mem_cons_of_mem _ (hi.2.2 n hn)⟩
        exact State.AllGroups.openGroup _ ⟨hmono.items, hmono.branches, hmono.frames⟩
          ⟨Nat.succ_pos _, Nat.le_refl _, by simp [State.openGroup]⟩
    | plain changes =>
      obtain rfl := Except.ok.inj h
      exact hst.openGroup _ trivial
    | directive changes =>
      obtain rfl := Except.ok.inj h
      exact ⟨List.forall_mem_cons.2 ⟨trivial, hst.items⟩, hst.branches, hst.frames⟩
  | closing =>
    simp only [take, closeGroup] at h
    split at h
    · simp at h
    · rename_i f frames hframes
      obtain rfl := Except.ok.inj h
      have hall := hst.frames
      rw [hframes] at hall
      obtain ⟨hf, hrest⟩ := List.forall_mem_cons.1 hall
      exact ⟨List.forall_mem_cons.2 ⟨⟨hf.kind, hst.body⟩, hf.items⟩, hf.branches, hrest⟩
  | bar =>
    obtain rfl := Except.ok.inj h
    exact ⟨by simp [nextBranch], List.forall_mem_cons.2 ⟨hst.row, hst.branches⟩, hst.frames⟩
  | atom a =>
    obtain rfl := Except.ok.inj h
    exact ⟨List.forall_mem_cons.2 ⟨allGroups_toExpr a, hst.items⟩, hst.branches, hst.frames⟩
  | bracketed c =>
    obtain rfl := Except.ok.inj h
    exact ⟨List.forall_mem_cons.2 ⟨trivial, hst.items⟩, hst.branches, hst.frames⟩
  | repetition min max greedy =>
    simp only [take, repeatLast] at h
    split at h
    · simp at h
    · simp at h
    · simp at h
    · rename_i e items _ _ hitems
      obtain rfl := Except.ok.inj h
      have hall := hst.items
      rw [hitems] at hall
      obtain ⟨he, hrest⟩ := List.forall_mem_cons.1 hall
      exact ⟨List.forall_mem_cons.2 ⟨he, hrest⟩, hst.branches, hst.frames⟩

theorem counted_step (hst : st.AllGroups st.Counted) (h : step st cs = .ok (st', rest)) :
    st'.AllGroups st'.Counted := by
  obtain ⟨⟨token, left⟩, -, h⟩ := bind_eq_ok.1 h
  obtain ⟨st₁, hst₁, h⟩ := bind_eq_ok.1 h
  obtain ⟨rfl, rfl⟩ := Prod.mk.inj (Except.ok.inj h)
  exact State.counted_take hst hst₁

theorem counted_run {n : ℕ} {last : State} (hst : st.AllGroups st.Counted)
    (h : run n st cs = .ok last) : last.AllGroups last.Counted := by
  induction n generalizing st cs with
  | zero =>
    obtain ⟨-, rfl⟩ | ⟨m, c, ds, st₁, left, heq, -⟩ := run_eq_ok h
    · exact hst
    · simp at heq
  | succ n ih =>
    obtain ⟨-, rfl⟩ | ⟨m, c, ds, st₁, left, heq, -, hstep, h⟩ := run_eq_ok h
    · exact hst
    · obtain rfl := Nat.succ.inj heq
      exact ih (counted_step hst hstep) h

/-! ## Groups -/

/-- At the end of a text in a group the reader goes on to what stands behind it, unless a comment
takes that. -/
theorem Finishes.of_end {fin : State} {back cs' : List Char} (hback : Closing back)
    (hcs : Follows back cs cs') (hnil : skip st.extended cs = [])
    (h : Finishes (outer.inside st) cs' fin) :
    fin = outer.inside st ∨ Finishes (outer.inside st) back fin := by
  have hskip := hcs.skip st.extended hback
  have h : Finishes (outer.inside st) (skip st.extended cs') fin := h.skipped
  rw [hnil] at hskip
  rcases hskip with heq | ⟨-, heq⟩
  · right
    rwa [heq] at h
  · left
    rw [heq] at h
    exact h.eq_of_nil (by cases st.extended <;> simp [skip, skipBlanks])

/-- Reading a text in a group goes through the states of reading it on its own, and then on to what
stands behind it, unless a comment takes that. -/
theorem Finishes.of_run {n : ℕ} {fin last : State} {back cs' : List Char} (hback : Closing back)
    (hrun : run n st cs = .ok last) (hcs : Follows back cs cs')
    (h : Finishes (outer.inside st) cs' fin) :
    fin = outer.inside last ∨ Finishes (outer.inside last) back fin := by
  induction n generalizing st cs cs' with
  | zero =>
    obtain ⟨hnil, rfl⟩ | ⟨m, c, ds, st₁, left, heq, -⟩ := run_eq_ok hrun
    · exact Finishes.of_end hback hcs hnil h
    · simp at heq
  | succ n ih =>
    obtain ⟨hnil, rfl⟩ | ⟨m, c, ds, st₁, left, heq, hds, hstep, hrun⟩ := run_eq_ok hrun
    · exact Finishes.of_end hback hcs hnil h
    · obtain rfl := Nat.succ.inj heq
      have hskip := hcs.skip st.extended hback
      rw [hds] at hskip
      obtain ⟨left', hstep', hleft⟩ := step_local hback st _ _ _ _ .refl hstep
      obtain ⟨st₂, left₂, hinside, hfin⟩ := h.exists_step hskip.eq_append
      obtain ⟨rfl, rfl⟩ := Prod.mk.inj (step_inside hstep' hinside)
      exact ih hrun hleft hfin

theorem skip_paren (extended : Bool) (cs : List Char) :
    skip extended (')' :: cs) = ')' :: cs := by
  cases extended <;> rfl

/-- What reading a regular expression on its own comes to. -/
theorem exists_run_of_read {e : Expr} (h : Expr.read cs = .ok e) :
    ∃ last, run cs.length {} cs = .ok last ∧ last.frames = [] ∧ e = last.body := by
  obtain ⟨last, hrun, h⟩ := bind_eq_ok.1 h
  split at h
  · rename_i hframes
    split at h
    · exact ⟨last, hrun, List.isEmpty_iff.1 hframes, (Except.ok.inj h).symm⟩
    · simp at h
  · simp at h

/-- A regular expression in a group becomes the body of the group, with the numbers that its own
groups have there. -/
theorem Finishes.group {fin : State} {kind : GroupKind} {p back : List Char} {e : Expr}
    (hread : Expr.read p = .ok e) (hback : '\n' ∉ back) (hfin : fin.frames = [])
    (h : Finishes (st.openGroup kind false) (p ++ ')' :: back) fin) :
    ∃ k names, e.AllGroups (fun i name => 0 < i ∧ i ≤ k ∧ ∀ n ∈ name, n ∈ names) ∧
      Finishes { st with
        items := .group kind (e.shift st.groups) :: st.items
        groups := st.groups + k
        names := names ++ st.names } back fin := by
  obtain ⟨last, hrun, hframes, rfl⟩ := exists_run_of_read hread
  have hcounted : last.AllGroups last.Counted :=
    counted_run ⟨by simp, by simp, by simp⟩ hrun
  have hopen : (st.openGroup kind false).inside {} = st.openGroup kind false := by
    simp [State.inside, State.openGroup]
  rw [← hopen] at h
  rcases Finishes.of_run ⟨back, rfl, hback⟩ hrun .refl h with rfl | h
  · simp [State.inside, State.openGroup] at hfin
  · refine ⟨last.groups, last.names, hcounted.body, ?_⟩
    obtain ⟨st₁, left, hstep, h⟩ := h.exists_step (skip_paren _ back)
    have hclose : step ((st.openGroup kind false).inside last) (')' :: back) = .ok ({ st with
        items := .group kind ((st.openGroup kind false).inside last).body :: st.items
        groups := st.groups + last.groups
        names := last.names ++ st.names }, back) := by
      simp [step, readToken, State.take, State.closeGroup, State.inside, State.openGroup, hframes,
        bind, Except.bind, pure, Except.pure]
    rw [hclose] at hstep
    obtain ⟨rfl, rfl⟩ := Prod.mk.inj (Except.ok.inj hstep)
    rw [State.body_inside] at h
    exact h

end PatternGrammar.Regex.Reader
