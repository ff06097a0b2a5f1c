import PatternGrammar.Proofs.Regex.Quantifiers
import PatternGrammar.Proofs.Regex.Rows
import PatternGrammar.Regex.Basic

/-!
# Inlined regular expressions

A text that is put together from regular expressions in groups is read as what it looks like: a row
of groups, a choice between groups, a repeated group, each of them also between anchors. What an
inlined regular expression matches there is what it matches on its own (`Inlines`).
-/

namespace PatternGrammar.Regex

open Expr (ofSequence ofAlternatives)

/-! ## Reading -/

namespace Reader

theorem finishes_of_read {cs : List Char} {e : Expr} (h : Expr.read cs = .ok e) :
    ∃ last, Finishes {} cs last ∧ last.frames = [] ∧ e = last.body := by
  obtain ⟨last, hrun, hframes, he⟩ := exists_run_of_read h
  exact ⟨last, ⟨_, hrun⟩, hframes, he⟩

variable {parts : List (Option String × List Char)} {e : Expr}

/-- Groups one after another are read as their sequence. -/
theorem read_row (hparts : ∀ part ∈ parts, Wrappable part.1 part.2)
    (h : Expr.read (wrapAll parts) = .ok e) :
    ∃ es high known, Wrapped 0 [] parts es high known ∧ e = ofSequence es := by
  obtain ⟨last, hlast, hframes, rfl⟩ := finishes_of_read h
  rw [← List.append_nil (wrapAll parts)] at hlast
  obtain ⟨es, high, known, hrow, hlast⟩ := hlast.sequence hparts (by simp) hframes rfl
  obtain rfl := hlast.eq_of_nil rfl
  exact ⟨es, high, known, hrow, by simp [State.body, ofAlternatives]⟩

/-- The texts of a row in their groups, with bars between them. -/
def wrapBarred : List (Option String × List Char) → List Char
  | [] => []
  | part :: parts => wrap part.1 part.2 ++ parts.flatMap fun p => '|' :: wrap p.1 p.2

/-- Groups with bars between them are read as their alternatives. -/
theorem read_barred (hne : parts ≠ []) (hparts : ∀ part ∈ parts, Wrappable part.1 part.2)
    (h : Expr.read (wrapBarred parts) = .ok e) :
    ∃ es high known, Wrapped 0 [] parts es high known ∧ e = ofAlternatives es := by
  obtain ⟨last, hlast, hframes, rfl⟩ := finishes_of_read h
  cases parts with
  | nil => exact absurd rfl hne
  | cons part parts =>
    rw [← List.append_nil (wrapBarred (part :: parts))] at hlast
    obtain ⟨es, e, high, known, hrow, hlast⟩ :=
      hlast.alternatives hparts (by simp) hframes rfl rfl
    obtain rfl := hlast.eq_of_nil rfl
    exact ⟨_, high, known, hrow, by simp [State.body, ofSequence]⟩

/-- A group with a quantifier behind it is read as its repetition. -/
theorem read_repeated {name : Option String} {p : List Char} {q : Quantifier}
    (hp : Wrappable name p) (hq : Ordered q)
    (h : Expr.read (wrap name p ++ q.text.toList) = .ok e) :
    ∃ e₀, Expr.read p = .ok e₀ ∧
      e = .repeated (.group (wrapKind 0 name) (e₀.shift (wrapStart 0 name))) q.bounds.1.toNat
        (q.bounds.2.map UInt32.toNat) true := by
  obtain ⟨last, hlast, hframes, rfl⟩ := finishes_of_read h
  obtain ⟨e₀, k, inner, hread, -, -, hlast⟩ :=
    hlast.wrapped hp (newline_not_mem_quantifier q) hframes rfl
  rw [← List.append_nil q.text.toList] at hlast
  have hlast := hlast.quantified hq (by simp) rfl rfl
  obtain rfl := hlast.eq_of_nil rfl
  exact ⟨e₀, hread, by simp [State.body, ofAlternatives, ofSequence]⟩

/-- A text between anchors. -/
def anchor (d : List Char) : List Char :=
  '\\' :: 'A' :: '(' :: '?' :: ':' :: (d ++ [')', '\\', 'z'])

/-- The expression between anchors. -/
def anchorExpr (e : Expr) : Expr :=
  ofSequence [.assertion .textStart, .group (.plain []) e, .assertion .textEnd]

/-- The state behind the anchor in front. -/
def anchorState : State :=
  (({} : State).push (.assertion .textStart)).openGroup (.plain []) false

theorem finishes_of_read_anchor {d : List Char} (h : Expr.read (anchor d) = .ok e) :
    ∃ last, Finishes anchorState (d ++ [')', '\\', 'z']) last ∧ last.frames = [] ∧
      e = last.body := by
  obtain ⟨last, hlast, hframes, he⟩ := finishes_of_read h
  have hstart : readToken false (anchor d) = .ok (.atom (.assertion .textStart), _) := rfl
  obtain ⟨st₁, htake, hlast⟩ := hlast.token rfl hstart
  obtain rfl := Except.ok.inj htake
  have hopening : readToken false ('(' :: '?' :: ':' :: (d ++ [')', '\\', 'z'])) =
    .ok (.opening (.plain []), _) := rfl
  obtain ⟨st₂, htake, hlast⟩ := hlast.token rfl hopening
  obtain rfl := Except.ok.inj htake
  exact ⟨last, hlast, hframes, he⟩

/-- Behind the anchored text the group is closed and the anchor at the end is read. -/
theorem Finishes.body_eq_anchorExpr {st last : State} (h : Finishes st [')', '\\', 'z'] last)
    (hframes : st.frames = anchorState.frames) : last.body = anchorExpr st.body := by
  obtain ⟨st₁, left, hstep, h⟩ := h.exists_step (skip_paren _ _)
  simp only [step, readToken, State.take, State.closeGroup, hframes, anchorState, State.openGroup]
    at hstep
  obtain ⟨rfl, rfl⟩ := Prod.mk.inj (Except.ok.inj hstep)
  have hstop : readToken false ['\\', 'z'] = .ok (.atom (.assertion .textEnd), _) := rfl
  obtain ⟨st₂, htake, h⟩ := h.token (by rfl) hstop
  obtain rfl := Except.ok.inj htake
  obtain rfl := h.eq_of_nil rfl
  simp [State.body, State.push, anchorExpr, ofAlternatives, Atom.toExpr]

/-- A regular expression between anchors. -/
theorem read_anchored {d : List Char} (hd : Wrappable none d) (h : Expr.read (anchor d) = .ok e) :
    ∃ e₀, Expr.read d = .ok e₀ ∧ e = anchorExpr (e₀.shift 0) := by
  obtain ⟨last, hlast, hframes, rfl⟩ := finishes_of_read h
  have hstart : readToken false (anchor d) = .ok (.atom (.assertion .textStart), _) := rfl
  obtain ⟨st₁, htake, hlast⟩ := hlast.token rfl hstart
  obtain rfl := Except.ok.inj htake
  have htext : '(' :: '?' :: ':' :: (d ++ [')', '\\', 'z']) = wrap none d ++ ['\\', 'z'] := by
    simp [wrap]
  rw [htext] at hlast
  obtain ⟨e₀, k, inner, hread, -, -, hlast⟩ := hlast.wrapped hd (by simp) hframes rfl
  have hstop : readToken false ['\\', 'z'] = .ok (.atom (.assertion .textEnd), _) := rfl
  obtain ⟨st₂, htake, hlast⟩ := hlast.token rfl hstop
  obtain rfl := Except.ok.inj htake
  obtain rfl := hlast.eq_of_nil rfl
  exact ⟨e₀, hread, by simp [State.body, State.push, anchorExpr, ofAlternatives, Atom.toExpr, wrapKind,
    wrapStart]⟩

/-- Groups between anchors. -/
theorem read_anchored_row (hparts : ∀ part ∈ parts, Wrappable part.1 part.2)
    (h : Expr.read (anchor (wrapAll parts)) = .ok e) :
    ∃ es high known, Wrapped 0 [] parts es high known ∧ e = anchorExpr (ofSequence es) := by
  obtain ⟨last, hlast, hframes, rfl⟩ := finishes_of_read_anchor h
  obtain ⟨es, high, known, hrow, hlast⟩ := hlast.sequence hparts (by simp) hframes rfl
  refine ⟨es, high, known, hrow, ?_⟩
  rw [hlast.body_eq_anchorExpr rfl]
  simp [State.body, ofAlternatives, anchorState, State.openGroup]

/-- Alternatives between anchors. -/
theorem read_anchored_barred (hne : parts ≠ []) (hparts : ∀ part ∈ parts, Wrappable part.1 part.2)
    (h : Expr.read (anchor (wrapBarred parts)) = .ok e) :
    ∃ es high known, Wrapped 0 [] parts es high known ∧ e = anchorExpr (ofAlternatives es) := by
  obtain ⟨last, hlast, hframes, rfl⟩ := finishes_of_read_anchor h
  cases parts with
  | nil => exact absurd rfl hne
  | cons part parts =>
    obtain ⟨es, e, high, known, hrow, hlast⟩ :=
      hlast.alternatives hparts (by simp) hframes rfl rfl
    refine ⟨_, high, known, hrow, ?_⟩
    rw [hlast.body_eq_anchorExpr rfl]
    simp [State.body, ofSequence, anchorState, State.openGroup]

/-- A repeated group between anchors. -/
theorem read_anchored_repeated {name : Option String} {p : List Char} {q : Quantifier}
    (hp : Wrappable name p) (hq : Ordered q)
    (h : Expr.read (anchor (wrap name p ++ q.text.toList)) = .ok e) :
    ∃ e₀, Expr.read p = .ok e₀ ∧
      e = anchorExpr (.repeated (.group (wrapKind 0 name) (e₀.shift (wrapStart 0 name)))
        q.bounds.1.toNat (q.bounds.2.map UInt32.toNat) true) := by
  obtain ⟨last, hlast, hframes, rfl⟩ := finishes_of_read_anchor h
  rw [List.append_assoc] at hlast
  have hline : '\n' ∉ q.text.toList ++ [')', '\\', 'z'] := by
    simpa using newline_not_mem_quantifier q
  obtain ⟨e₀, k, inner, hread, -, -, hlast⟩ := hlast.wrapped hp hline hframes rfl
  have hlast := hlast.quantified hq (by simp) rfl rfl
  refine ⟨e₀, hread, ?_⟩
  rw [hlast.body_eq_anchorExpr rfl]
  simp [State.body, ofAlternatives, ofSequence, anchorState, State.openGroup, State.push]

end Reader

/-! ## Matching -/

open Reader Pattern
open Expr (Resolves branches)

/-- The pattern matches where the regular expression with the given text does on its own. -/
def Inlines (p : List Char) (q : Pattern) : Prop :=
  ∀ s re, s.toList = p → compile s = .ok re → re.pattern.SameSpans q

theorem exists_branches_of_compile {s : String} {re : Regex} (h : compile s = .ok re) :
    ∃ e ps f, Expr.read s.toList = .ok e ∧ branches {} e = .ok (ps, f) ∧
      re.pattern = choose ps ∧ re.groupNames = e.groupNames := by
  obtain ⟨e, he, h⟩ := bind_eq_ok.1 h
  obtain ⟨p, hp, h⟩ := bind_eq_ok.1 h
  obtain ⟨⟨ps, f⟩, hps, hp⟩ := bind_eq_ok.1 hp
  obtain rfl := Except.ok.inj hp
  split at h
  · obtain rfl := Except.ok.inj h
    exact ⟨e, ps, f, he, hps, rfl, rfl⟩
  · simp at h

theorem inlines_of_branches {p : List Char} {e : Expr} {k : ℕ} {ps : List Pattern} {f : Flags}
    (hread : Expr.read p = .ok e) (h : branches {} (e.shift k) = .ok (ps, f)) :
    Inlines p (choose ps) := by
  rintro s re rfl hre
  obtain ⟨e', ps', f', hread', hps', hpattern, -⟩ := exists_branches_of_compile hre
  obtain rfl := Except.ok.inj (hread.symm.trans hread')
  rw [hpattern]
  exact .choose (Expr.branches_shift hps' h).2

/-- The pattern of a group, from the pattern of its body. -/
def wrapPattern (low : ℕ) (name : Option String) (p : Pattern) : Pattern :=
  match name with
  | none => p
  | some _ => capture (low + 1) p

theorem spans_wrapPattern {low : ℕ} {name : Option String} {p : Pattern} :
    (wrapPattern low name p).SameSpans p := by
  cases name <;> exact .refl p

theorem exists_branches_of_wrapKind {low : ℕ} {name : Option String} {body : Expr} {q : Pattern}
    {f : Flags} (h : Resolves f (.group (wrapKind low name) body) q) :
    ∃ ps g, branches f body = .ok (ps, g) ∧ q = wrapPattern low name (choose ps) := by
  cases name with
  | none =>
    obtain ⟨⟨ps, g⟩, hps, h⟩ := bind_eq_ok.1 h
    obtain ⟨hq, -⟩ := Prod.mk.inj (Except.ok.inj h)
    exact ⟨ps, g, hps, (List.singleton_inj.1 hq).symm⟩
  | some name =>
    obtain ⟨⟨ps, g⟩, hps, h⟩ := bind_eq_ok.1 h
    obtain ⟨hq, -⟩ := Prod.mk.inj (Except.ok.inj h)
    exact ⟨ps, g, hps, (List.singleton_inj.1 hq).symm⟩

theorem isGroup_of_wrapped {low high : ℕ} {known known' : List String}
    {parts : List (Option String × List Char)} {es : List Expr}
    (h : Wrapped low known parts es high known') : ∀ e ∈ es, e.IsGroup := by
  induction h with
  | nil => simp
  | cons _ _ _ _ ih => exact List.forall_mem_cons.2 ⟨⟨_, _, rfl⟩, ih⟩

/-- In a row of groups each text matches what it does on its own. -/
theorem inlines_of_wrapped {low high : ℕ} {known known' : List String}
    {parts : List (Option String × List Char)} {es : List Expr} {qs : List Pattern}
    (h : Wrapped low known parts es high known') (hqs : List.Forall₂ (Resolves {}) es qs) :
    List.Forall₂ (fun part q => Inlines part.2 q) parts qs := by
  induction h generalizing qs with
  | nil => cases hqs; exact .nil
  | cons read _ _ _ ih =>
    cases hqs with
    | cons hq hqs =>
      obtain ⟨ps, g, hps, rfl⟩ := exists_branches_of_wrapKind hq
      refine .cons (fun s re hs hre => ?_) (ih hqs)
      exact (inlines_of_branches read hps s re hs hre).trans spans_wrapPattern.symm

/-! ## Rows, choices and repetitions -/

/-- The patterns match one after another between two places. -/
def SpansRow (text : Array Char) : List Pattern → ℕ → ℕ → Prop
  | [], i, j => i = j
  | p :: ps, i, j => ∃ m, p.Spans text i m ∧ SpansRow text ps m j

theorem spansRow_iff {text : Array Char} {ps : List Pattern} {i j : ℕ} (s : List (ℕ × ℕ)) :
    SpansRow text ps i j ↔ ∃ s', MatchesRow text ps ⟨i, s⟩ ⟨j, s'⟩ := by
  induction ps generalizing i s with
  | nil => simp [SpansRow, MatchesRow]
  | cons p ps ih =>
    constructor
    · rintro ⟨m, hm, hj⟩
      obtain ⟨s', hs'⟩ := (spans_iff s).1 hm
      obtain ⟨s'', hs''⟩ := (ih s').1 hj
      exact ⟨s'', ⟨m, s'⟩, hs', hs''⟩
    · rintro ⟨s'', ⟨m, s'⟩, hs', hs''⟩
      exact ⟨m, (spans_iff s).2 ⟨s', hs'⟩, (ih s').2 ⟨s'', hs''⟩⟩

theorem spansRow_congr {text : Array Char} {ps qs : List Pattern}
    (h : List.Forall₂ SameSpans ps qs) {i j : ℕ} : SpansRow text ps i j ↔ SpansRow text qs i j := by
  induction h generalizing i with
  | nil => exact Iff.rfl
  | cons hpq _ ih => simp only [SpansRow, hpq text, ih]

variable {s : String} {re : Regex} {bodies : List String} {res : List Regex}

/-- The texts in groups with names. -/
def nameParts (named : List (String × List Char)) : List (Option String × List Char) :=
  named.map fun x => (some x.1, x.2)

/-- The texts in groups that record nothing. -/
def plainParts (bodies : List String) : List (Option String × List Char) :=
  bodies.map fun b => (none, b.toList)

theorem wrappable_of_compile {name : Option String} {b : String} {re : Regex}
    (hname : ∀ n ∈ name, '>' ∉ n.toList ∧ '\n' ∉ n.toList) (hline : '\n' ∉ b.toList)
    (h : compile b = .ok re) : Wrappable name b.toList := by
  obtain ⟨e, -, -, hread, -⟩ := exists_branches_of_compile h
  exact ⟨hname, hline, e, hread⟩

theorem exists_compile_of_mem
    (hbodies : List.Forall₂ (fun b re => compile b = .ok re) bodies res) :
    ∀ b ∈ bodies, ∃ re, compile b = .ok re := by
  induction hbodies with
  | nil => simp
  | cons hb _ ih => exact List.forall_mem_cons.2 ⟨⟨_, hb⟩, ih⟩

theorem wrappable_plainParts (hbodies : List.Forall₂ (fun b re => compile b = .ok re) bodies res)
    (hline : ∀ b ∈ bodies, '\n' ∉ b.toList) :
    ∀ part ∈ plainParts bodies, Wrappable part.1 part.2 := by
  refine List.forall_mem_map.2 fun b hb => ?_
  obtain ⟨re, hre⟩ := exists_compile_of_mem hbodies b hb
  exact wrappable_of_compile (by simp) (hline b hb) hre

/-- The text of a part compiles on its own to the regular expression. -/
def OwnRegex (part : Option String × List Char) (re : Regex) : Prop :=
  compile (String.ofList part.2) = .ok re

theorem ownRegex_plainParts (hbodies : List.Forall₂ (fun b re => compile b = .ok re) bodies res) :
    List.Forall₂ OwnRegex (plainParts bodies) res := by
  rw [plainParts, List.forall₂_map_left_iff]
  refine hbodies.imp fun b re hre => ?_
  rwa [OwnRegex, String.ofList_toList]

theorem sameSpans_of_inlines {parts : List (Option String × List Char)}
    (hparts : List.Forall₂ OwnRegex parts res) {qs : List Pattern}
    (hqs : List.Forall₂ (fun part q => Inlines part.2 q) parts qs) :
    List.Forall₂ SameSpans (res.map Regex.pattern) qs := by
  induction hparts generalizing qs with
  | nil => cases hqs; exact .nil
  | cons hpart _ ih =>
    cases hqs with
    | cons hq hqs => exact .cons (hq _ _ String.toList_ofList hpart) (ih hqs)

/-- Regular expressions in groups one after another match what they match on their own, one after
another. -/
theorem spans_row (h : compile s = .ok re) (hs : s.toList = wrapAll (plainParts bodies))
    (hbodies : List.Forall₂ (fun b re => compile b = .ok re) bodies res)
    (hline : ∀ b ∈ bodies, '\n' ∉ b.toList) {text : Array Char} {i j : ℕ} :
    re.pattern.Spans text i j ↔ SpansRow text (res.map Regex.pattern) i j := by
  obtain ⟨e, ps, f, hread, hps, hpattern, -⟩ := exists_branches_of_compile h
  rw [hs] at hread
  obtain ⟨es, high, known, hrow, rfl⟩ := read_row (wrappable_plainParts hbodies hline) hread
  obtain ⟨-, qs, hqs, hmatch⟩ := Expr.resolves_ofSequence (isGroup_of_wrapped hrow) hps
  rw [hpattern, spans_iff [], spansRow_congr (sameSpans_of_inlines (ownRegex_plainParts hbodies)
    (inlines_of_wrapped hrow hqs)), spansRow_iff []]
  simp only [hmatch]

/-- Regular expressions in groups with bars between them match what one of them matches on its
own. -/
theorem spans_barred (h : compile s = .ok re) (hs : s.toList = wrapBarred (plainParts bodies))
    (hne : bodies ≠ []) (hbodies : List.Forall₂ (fun b re => compile b = .ok re) bodies res)
    (hline : ∀ b ∈ bodies, '\n' ∉ b.toList) {text : Array Char} {i j : ℕ} :
    re.pattern.Spans text i j ↔ ∃ r ∈ res, r.pattern.Spans text i j := by
  obtain ⟨e, ps, f, hread, hps, hpattern, -⟩ := exists_branches_of_compile h
  rw [hs] at hread
  obtain ⟨es, high, known, hrow, rfl⟩ :=
    read_barred (by simpa [plainParts]) (wrappable_plainParts hbodies hline) hread
  have hne : es ≠ [] := by
    rintro rfl
    cases bodies with
    | nil => exact hne rfl
    | cons b bodies => cases hrow
  obtain ⟨-, hqs⟩ := Expr.resolves_ofAlternatives hne (isGroup_of_wrapped hrow) hps
  rw [hpattern, spans_choose, ← exists_spans_congr (sameSpans_of_inlines
    (ownRegex_plainParts hbodies) (inlines_of_wrapped hrow hqs))]
  simp

/-- A repeated group matches what its body matches on its own, a number of times within the
bounds. -/
theorem spans_repeated_group {b : String} {r : Regex} {name : Option String} {low k min : ℕ}
    {max : Option ℕ} {e : Expr} {ps : List Pattern} {f : Flags} (hread : Expr.read b.toList = .ok e)
    (hb : compile b = .ok r)
    (h : branches {} (.repeated (.group (wrapKind low name) (e.shift k)) min max true) =
      .ok (ps, f)) {text : Array Char} {i j : ℕ} :
    (choose ps).Spans text i j ↔
      ∃ n, InBounds min max n ∧ Times (r.pattern.Spans text) n i j := by
  obtain ⟨⟨qs, g⟩, hqs, hps⟩ := bind_eq_ok.1 h
  obtain ⟨rfl, -⟩ := Prod.mk.inj (Except.ok.inj hps)
  obtain ⟨q, hq, rfl, rfl⟩ := Expr.resolves_of_group ⟨_, _, rfl⟩ hqs
  obtain ⟨rs, _, hrs, rfl⟩ := exists_branches_of_wrapKind hq
  have hsame : r.pattern.SameSpans (choose rs) := inlines_of_branches hread hrs b r rfl hb
  have hgroup : r.pattern.SameSpans (choose [wrapPattern low name (choose rs)]) :=
    (hsame.trans spans_wrapPattern.symm).trans (sameSpans_singleton _).symm
  rw [(sameSpans_singleton _) text, ← hgroup.times _ _ _ text, spans_times]

/-- A regular expression in a group with a quantifier behind it matches what it matches on its own,
a number of times within the bounds. -/
theorem spans_repeated {b : String} {r : Regex} {q : Quantifier} (h : compile s = .ok re)
    (hs : s.toList = wrap none b.toList ++ q.text.toList) (hq : Ordered q)
    (hb : compile b = .ok r) (hline : '\n' ∉ b.toList) {text : Array Char} {i j : ℕ} :
    re.pattern.Spans text i j ↔ ∃ k, InBounds q.bounds.1.toNat (q.bounds.2.map UInt32.toNat) k ∧
      Times (r.pattern.Spans text) k i j := by
  obtain ⟨e, ps, f, hread, hps, hpattern, -⟩ := exists_branches_of_compile h
  rw [hs] at hread
  obtain ⟨e₀, hread₀, rfl⟩ := read_repeated (wrappable_of_compile (by simp) hline hb) hq hread
  rw [hpattern]
  exact spans_repeated_group hread₀ hb hps

end PatternGrammar.Regex
