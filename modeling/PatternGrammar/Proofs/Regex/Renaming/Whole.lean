import PatternGrammar.Proofs.Regex.Anchoring
import PatternGrammar.Proofs.Regex.Renaming.Token

/-!
# Patterns between anchors whose groups are given names

A pattern that can be read on its own ends at the depth at which it begins. So does the pattern with
names for the groups of the components, since both are read in step (`Reader.Mirrors.finishes`).
Between anchors it therefore ends where the group around it is closed, however its own groups are
torn, and matches nothing but whole texts.

Main result: `wholeOnly_of_renamed`.
-/

namespace PatternGrammar.Regex

namespace Reader

/-! ## States -/

variable {back cs cs' : List Char} {outer : List GroupFrame} {st st' next next' last : State}

/-- The second reader is as deep in groups as the first one, inside of some others, and blanks mean
the same to both. -/
structure Mirrors (outer : List GroupFrame) (st st' : State) : Prop where
  extended : st'.extended = st.extended
  frames : ∃ frames, st'.frames = frames ++ outer ∧
    frames.map GroupFrame.extended = st.frames.map GroupFrame.extended

/-- What an opening parenthesis does to blanks and groups. -/
theorem State.applyOpening_frames {opening : Opening} (h : st.applyOpening opening = .ok next) :
    next.extended = extendedAfter st.extended opening.changes ∧
      if opening.isGroup then ∃ f, f.extended = st.extended ∧ next.frames = f :: st.frames
      else next.frames = st.frames := by
  cases opening with
  | capture =>
    obtain rfl := Except.ok.inj h
    exact ⟨rfl, _, rfl, rfl⟩
  | named name =>
    unfold applyOpening at h
    dsimp only at h
    split at h
    · simp at h
    · obtain rfl := Except.ok.inj h
      exact ⟨rfl, _, rfl, rfl⟩
  | plain changes =>
    obtain rfl := Except.ok.inj h
    exact ⟨rfl, _, rfl, rfl⟩
  | directive changes =>
    obtain rfl := Except.ok.inj h
    exact ⟨rfl, rfl⟩

/-- A part that begins and ends no group leaves blanks and groups. -/
theorem State.take_flat {token : Token} (hflat : token.isFlat) (h : st.take token = .ok next) :
    next.extended = st.extended ∧ next.frames = st.frames := by
  cases token with
  | opening opening => simp [Token.isFlat] at hflat
  | closing => simp [Token.isFlat] at hflat
  | bar | atom _ | bracketed _ =>
    obtain rfl := Except.ok.inj h
    exact ⟨rfl, rfl⟩
  | repetition min max greedy =>
    simp only [take, repeatLast] at h
    split at h
    · simp at h
    · simp at h
    · simp at h
    · obtain rfl := Except.ok.inj h
      exact ⟨rfl, rfl⟩

/-- Closing a group brings back what blanks meant before it. -/
theorem State.take_closing (h : st.take .closing = .ok next) :
    ∃ f, next.extended = f.extended ∧ st.frames = f :: next.frames := by
  simp only [take, closeGroup] at h
  split at h
  · simp at h
  · rename_i f frames hframes
    obtain rfl := Except.ok.inj h
    exact ⟨f, rfl, hframes⟩

/-- Parts that are alike keep two readers in step. -/
theorem Mirrors.take {token token' : Token} (h : Mirrors outer st st') (halike : Alike token token')
    (hnext : st.take token = .ok next) (hnext' : st'.take token' = .ok next') :
    Mirrors outer next next' := by
  obtain ⟨hextended, frames, hframes, hmap⟩ := h
  cases halike with
  | @opening o o' hchanges hgroup =>
    obtain ⟨hafter, hopen⟩ := State.applyOpening_frames hnext
    obtain ⟨hafter', hopen'⟩ := State.applyOpening_frames hnext'
    rw [← hchanges, hextended] at hafter'
    rw [← hgroup] at hopen'
    refine ⟨hafter'.trans hafter.symm, ?_⟩
    split at hopen
    · rename_i hisGroup
      rw [if_pos hisGroup] at hopen'
      obtain ⟨f, hf, hopen⟩ := hopen
      obtain ⟨f', hf', hopen'⟩ := hopen'
      refine ⟨f' :: frames, by rw [hopen', hframes, List.cons_append], ?_⟩
      rw [hopen, List.map_cons, List.map_cons, hmap, hf, hf', hextended]
    · rename_i hisGroup
      rw [if_neg hisGroup] at hopen'
      exact ⟨frames, hopen'.trans hframes, by rw [hopen, hmap]⟩
  | closing =>
    obtain ⟨f, hf, hclose⟩ := State.take_closing hnext
    obtain ⟨f', hf', hclose'⟩ := State.take_closing hnext'
    rw [hclose, List.map_cons] at hmap
    cases frames with
    | nil => simp at hmap
    | cons first frames =>
      obtain ⟨hfirst, hmap⟩ := List.cons.inj hmap
      rw [hframes, List.cons_append] at hclose'
      obtain ⟨rfl, hrest⟩ := List.cons.inj hclose'
      exact ⟨by rw [hf', hf, hfirst], frames, hrest.symm, hmap⟩
  | flat hflat hflat' =>
    obtain ⟨hafter, hkeep⟩ := State.take_flat hflat hnext
    obtain ⟨hafter', hkeep'⟩ := State.take_flat hflat' hnext'
    exact ⟨by rw [hafter', hafter, hextended], frames, by rw [hkeep', hframes], by rw [hkeep, hmap]⟩

/-! ## Runs -/

theorem exists_token_of_step {x : State × List Char} (h : step st cs = .ok x) :
    ∃ token, readToken st.extended cs = .ok (token, x.2) ∧ st.take token = .ok x.1 := by
  obtain ⟨⟨token, left⟩, htoken, h⟩ := bind_eq_ok.1 h
  obtain ⟨st₁, hst₁, h⟩ := bind_eq_ok.1 h
  obtain rfl := Except.ok.inj h
  exact ⟨token, htoken, hst₁⟩

theorem Mirrors.step (hback : Closing back) {left left' : List Char} (h : Mirrors outer st st')
    (hcs : Renamed back true cs cs') (hstep : step st cs = .ok (next, left))
    (hstep' : step st' cs' = .ok (next', left')) :
    Mirrors outer next next' ∧ Renamed back true left left' := by
  obtain ⟨token, htoken, hnext⟩ := exists_token_of_step hstep
  obtain ⟨token', htoken', hnext'⟩ := exists_token_of_step hstep'
  rw [h.extended] at htoken'
  obtain ⟨halike, hleft⟩ := readToken_agree hback hcs htoken htoken'
  exact ⟨h.take halike hnext hnext', hleft⟩

theorem Mirrors.finishes_end (hback : Closing back) {fin : State} (h : Mirrors outer st st')
    (hcs : Renamed back true cs cs') (hnil : skip st.extended cs = [])
    (hfin : Finishes st' cs' fin) :
    ∃ last', Mirrors outer st last' ∧ (fin = last' ∨ Finishes last' back fin) := by
  have hskip : Renamed back true (skip st.extended cs) (skip st.extended cs') :=
    hcs.skip st.extended hback
  have hfin := hfin.skipped
  rw [h.extended] at hfin
  rw [hnil] at hskip
  generalize skip st.extended cs' = right at hskip hfin
  refine ⟨st', h, ?_⟩
  cases hskip with
  | done => exact .inr hfin
  | taken => exact .inl (hfin.eq_of_nil (by cases st'.extended <;> rfl))

/-- Where the first reader is at the end of its text, the second one is in front of what stands
behind, if no comment has taken it. -/
theorem Mirrors.finishes (hback : Closing back) {n : ℕ} {fin : State} (h : Mirrors outer st st')
    (hcs : Renamed back true cs cs') (hrun : run n st cs = .ok last)
    (hfin : Finishes st' cs' fin) :
    ∃ last', Mirrors outer last last' ∧ (fin = last' ∨ Finishes last' back fin) := by
  induction n generalizing st st' cs cs' with
  | zero =>
    obtain ⟨hnil, rfl⟩ | ⟨m, c, ds, st₁, left, heq, -⟩ := run_eq_ok hrun
    · exact h.finishes_end hback hcs hnil hfin
    · simp at heq
  | succ n ih =>
    obtain ⟨hnil, rfl⟩ | ⟨m, c, ds, st₁, left, heq, hds, hstep, hrun⟩ := run_eq_ok hrun
    · exact h.finishes_end hback hcs hnil hfin
    · obtain rfl := Nat.succ.inj heq
      have hskip : Renamed back true (skip st.extended cs) (skip st.extended cs') :=
        hcs.skip st.extended hback
      rw [hds] at hskip
      obtain ⟨c', ds', hds'⟩ : ∃ c' ds', skip st.extended cs' = c' :: ds' := by
        generalize skip st.extended cs' = right at hskip
        cases hskip <;> exact ⟨_, _, rfl⟩
      rw [hds'] at hskip
      obtain ⟨st₁', left', hstep', hfin⟩ := hfin.exists_step (h.extended ▸ hds')
      obtain ⟨hmirrors, hleft⟩ := h.step hback hskip hstep hstep'
      exact ih hmirrors hleft hrun hfin

/-- A text between anchors is read as what stands between them, if it can be read on its own without
the names of its groups. -/
theorem read_anchored_renamed {p d : List Char} {e₀ e : Expr} (hp : Expr.read p = .ok e₀)
    (hd : Expr.read (anchor d) = .ok e)
    (h : Renamed [')', '\\', 'z'] true p (d ++ [')', '\\', 'z'])) :
    ∃ body, e = anchorExpr body := by
  have hback : Closing [')', '\\', 'z'] := ⟨['\\', 'z'], rfl, by simp⟩
  obtain ⟨last, hrun, hlast, -⟩ := exists_run_of_read hp
  obtain ⟨fin, hfin, hframes, rfl⟩ := finishes_of_read_anchor hd
  have hstart : Mirrors anchorState.frames {} anchorState := ⟨rfl, [], rfl, rfl⟩
  obtain ⟨last', ⟨-, frames, hlast', hmap⟩, hend⟩ := hstart.finishes hback h hrun hfin
  rw [hlast, List.map_nil, List.map_eq_nil_iff] at hmap
  rw [hmap, List.nil_append] at hlast'
  rcases hend with rfl | hend
  · rw [hlast'] at hframes
    simp [anchorState, State.openGroup] at hframes
  · exact ⟨_, hend.body_eq_anchorExpr hlast'⟩

/-! ## Rows of groups -/

/-- A name that a group of a component can be given. -/
structure Nameable (name : String) : Prop where
  inert : ∀ c ∈ name.toList, Inert c
  unclosed : '>' ∉ name.toList

namespace Renamed

variable {b : Bool} {parts : List (String × List Char)}

theorem append_back (b : Bool) (cs : List Char) : Renamed back b cs (cs ++ back) := by
  induction cs generalizing b with
  | nil => exact .done
  | cons c cs ih => exact .char (ih _)

theorem body (p : List Char) (h : Renamed back true cs cs') :
    Renamed back false (p ++ ')' :: cs) (p ++ ')' :: cs') := by
  induction p with
  | nil => exact .char h
  | cons c p ih => exact .char ih.of_false

theorem wrapped {name : String} (hname : Nameable name) (p : List Char)
    (h : Renamed back true cs cs') :
    Renamed back true (wrap none p ++ cs) (wrap (some name) p ++ cs') := by
  have hgroup := Renamed.group hname.inert hname.unclosed (h.body p)
  simpa [wrap] using hgroup

theorem row (hnames : ∀ part ∈ parts, Nameable part.1) (h : Renamed back true cs cs') :
    Renamed back true (wrapAll (parts.map fun part => (none, part.2)) ++ cs)
      (wrapAll (nameParts parts) ++ cs') := by
  induction parts with
  | nil => exact h
  | cons part parts ih =>
    obtain ⟨hname, hnames⟩ := List.forall_mem_cons.1 hnames
    have hrow := (ih hnames).wrapped hname part.2
    simpa [wrapAll, nameParts] using hrow

theorem barred (hnames : ∀ part ∈ parts, Nameable part.1) :
    Renamed back true (wrapBarred (parts.map fun part => (none, part.2)))
      (wrapBarred (nameParts parts) ++ back) := by
  have hbars : ∀ {parts : List (String × List Char)}, (∀ part ∈ parts, Nameable part.1) →
      Renamed back true
        ((parts.map fun part => (none, part.2)).flatMap fun p => '|' :: wrap p.1 p.2)
        (((nameParts parts).flatMap fun p => '|' :: wrap p.1 p.2) ++ back) := by
    intro parts hnames
    induction parts with
    | nil => exact .done
    | cons part parts ih =>
      obtain ⟨hname, hnames⟩ := List.forall_mem_cons.1 hnames
      have hbar : Renamed back true ('|' :: _) ('|' :: _) :=
        .char ((ih hnames).wrapped hname part.2)
      simpa [nameParts] using hbar
  cases parts with
  | nil => exact .done
  | cons part parts =>
    obtain ⟨hname, hnames⟩ := List.forall_mem_cons.1 hnames
    have hrow := (hbars hnames).wrapped hname part.2
    simpa [wrapBarred, nameParts] using hrow

end Renamed

end Reader

open Reader

/-- A pattern between anchors matches whole texts only, if without the names of its groups it is a
regular expression on its own. -/
theorem wholeOnly_of_renamed {p d source : String} {re r : Regex} (hp : compile p = .ok r)
    (h : compile source = .ok re) (hsource : source.toList = anchor d.toList)
    (hrenamed : Renamed [')', '\\', 'z'] true p.toList (d.toList ++ [')', '\\', 'z']))
    (text : String) : re.WholeOnly text := by
  obtain ⟨e₀, -, -, hread₀, -⟩ := exists_branches_of_compile hp
  obtain ⟨e, ps, f, hread, hps, hpattern, -⟩ := exists_branches_of_compile h
  rw [hsource] at hread
  obtain ⟨body, rfl⟩ := read_anchored_renamed hread₀ hread hrenamed
  obtain ⟨qs, g, -, hanchored⟩ := spans_anchorExpr hps
  intro i j hmatch
  rw [canMatch_iff (program_of_compile h), hpattern, hanchored] at hmatch
  exact ⟨hmatch.1, by simpa using hmatch.2.1⟩

end PatternGrammar.Regex
