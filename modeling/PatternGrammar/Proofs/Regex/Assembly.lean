import PatternGrammar.Proofs.Regex.Embedding
import PatternGrammar.Proofs.Text.Trimming

/-!
# Rows of groups

A regular expression that is put together from others, each in a group, is read as the row of these
groups: one after another, with bars between them, or with a quantifier behind one of them. Each
group holds what its text is read as on its own, with the numbers that its own groups have there.

`Wrapped` says what a row of texts in groups is read as. Main results:

* `Reader.Finishes.sequence`, `Reader.Finishes.alternatives`: rows of groups.
-/

namespace PatternGrammar.Regex

/-- A text in a group, which has a name or records nothing. -/
def wrap (name : Option String) (p : List Char) : List Char :=
  match name with
  | none => '(' :: '?' :: ':' :: (p ++ [')'])
  | some name => '(' :: '?' :: 'P' :: '<' :: (name.toList ++ '>' :: (p ++ [')']))

/-- The kind of a group behind `low` others. -/
def wrapKind (low : ℕ) : Option String → GroupKind
  | none => .plain []
  | some name => .capture (low + 1) (some name)

/-- How many groups are counted when the group behind `low` others has been opened. -/
def wrapStart (low : ℕ) : Option String → ℕ
  | none => low
  | some _ => low + 1

/-- A row of texts in groups is read as a row of expressions, where `low` groups with the names
`known` stand in front of it, and `high` groups with the names `known'` in front of what follows. -/
inductive Wrapped :
    ℕ → List String → List (Option String × List Char) → List Expr → ℕ → List String → Prop
  | nil {low : ℕ} {known : List String} : Wrapped low known [] [] low known
  | cons {low k high : ℕ} {known inner known' : List String} {name : Option String} {p : List Char}
    {e : Expr} {parts : List (Option String × List Char)} {es : List Expr}
    (read : Expr.read p = .ok e)
    (counted : e.AllGroups fun i name => 0 < i ∧ i ≤ k ∧ ∀ n ∈ name, n ∈ inner)
    (new : ∀ n ∈ name, n ∉ known)
    (rest : Wrapped (wrapStart low name + k) (inner ++ name.toList ++ known) parts es high known') :
    Wrapped low known ((name, p) :: parts)
      (.group (wrapKind low name) (e.shift (wrapStart low name)) :: es) high known'

/-- A text that can stand in a group with the given name: it can be read on its own, and it is on
one line. -/
structure Wrappable (name : Option String) (p : List Char) : Prop where
  name_line : ∀ n ∈ name, '>' ∉ n.toList ∧ '\n' ∉ n.toList
  line : '\n' ∉ p
  read : ∃ e, Expr.read p = .ok e

theorem Wrappable.newline_not_mem {name : Option String} {p : List Char} (h : Wrappable name p) :
    '\n' ∉ wrap name p := by
  have hline := h.line
  cases name with
  | none => simp [wrap, hline]
  | some name => simp [wrap, hline, (h.name_line name rfl).2]

namespace Reader

variable {st fin : State} {back : List Char}

theorem readGroupName_eq_ok {name : String} (hname : '>' ∉ name.toList) {cs : List Char}
    {result : String × List Char} (h : readGroupName (name.toList ++ '>' :: cs) = .ok result) :
    result = (name, cs) := by
  have hfront : ∀ c ∈ name.toList, (c != '>') = true := fun c hc => by
    rw [bne_iff_ne]
    rintro rfl
    exact hname hc
  unfold readGroupName at h
  rw [Text.takeWhile_append_stop hfront (by simp), Text.dropWhile_append_stop hfront (by simp)] at h
  dsimp only at h
  split at h
  · rename_i heq hchars
    obtain ⟨rfl, rfl⟩ := List.cons.inj heq
    split at h
    · obtain rfl := Except.ok.inj h
      rw [← hchars, String.ofList_toList]
    · simp at h
  · simp at h

/-- Where blanks have a meaning, what is read next is the token that the text begins with. -/
theorem Finishes.token {c : Char} {cs rest : List Char} {token : Token}
    (hextended : st.extended = false) (htoken : readToken false (c :: cs) = .ok (token, rest))
    (h : Finishes st (c :: cs) fin) : ∃ st', st.take token = .ok st' ∧ Finishes st' rest fin := by
  obtain ⟨st₁, left, hstep, h⟩ := h.exists_step (by rw [hextended]; rfl)
  obtain ⟨⟨token', left'⟩, htoken', hstep⟩ := bind_eq_ok.1 hstep
  rw [hextended, htoken] at htoken'
  obtain ⟨rfl, rfl⟩ := Prod.mk.inj (Except.ok.inj htoken')
  obtain ⟨st₂, htake, hstep⟩ := bind_eq_ok.1 hstep
  obtain ⟨rfl, rfl⟩ := Prod.mk.inj (Except.ok.inj hstep)
  exact ⟨st₂, htake, h⟩

/-- An opening parenthesis with what makes it a group. -/
theorem Finishes.opened {name : Option String} {p : List Char}
    (hname : ∀ n ∈ name, '>' ∉ n.toList ∧ '\n' ∉ n.toList) (hextended : st.extended = false)
    (h : Finishes st (wrap name p ++ back) fin) :
    (∀ n ∈ name, n ∉ st.names) ∧
      Finishes (State.openGroup
        { st with groups := wrapStart st.groups name, names := name.toList ++ st.names }
        (wrapKind st.groups name) false) (p ++ ')' :: back) fin := by
  cases name with
  | none =>
    have htext : wrap none p ++ back = '(' :: '?' :: ':' :: (p ++ ')' :: back) := by simp [wrap]
    rw [htext] at h
    obtain ⟨st₁, htake, h⟩ := h.token hextended rfl
    obtain rfl := Except.ok.inj htake
    rw [hextended] at h
    exact ⟨by simp, h⟩
  | some name =>
    have htext : wrap (some name) p ++ back =
        '(' :: '?' :: 'P' :: '<' :: (name.toList ++ '>' :: (p ++ ')' :: back)) := by simp [wrap]
    rw [htext] at h
    obtain ⟨st₁, left, hstep, h⟩ := h.exists_step (by rw [hextended]; rfl)
    obtain ⟨⟨token, left₁⟩, htoken, hstep⟩ := bind_eq_ok.1 hstep
    rw [hextended] at htoken
    obtain ⟨⟨opening, left₂⟩, hopening, htoken⟩ := bind_eq_ok.1 htoken
    obtain ⟨⟨name', left₃⟩, hread, hopening⟩ := bind_eq_ok.1 hopening
    obtain ⟨rfl, rfl⟩ := Prod.mk.inj (readGroupName_eq_ok (hname name rfl).1 hread)
    obtain ⟨rfl, rfl⟩ := Prod.mk.inj (Except.ok.inj hopening)
    obtain ⟨rfl, rfl⟩ := Prod.mk.inj (Except.ok.inj htoken)
    obtain ⟨st₂, htake, hstep⟩ := bind_eq_ok.1 hstep
    obtain ⟨rfl, rfl⟩ := Prod.mk.inj (Except.ok.inj hstep)
    simp only [State.take, State.applyOpening] at htake
    split at htake
    · simp at htake
    · rename_i hnew
      obtain rfl := Except.ok.inj htake
      rw [hextended] at h ⊢
      exact ⟨by simpa using hnew, h⟩

theorem Finishes.wrapped {name : Option String} {p : List Char} (hp : Wrappable name p)
    (hback : '\n' ∉ back) (hfin : fin.frames = []) (hextended : st.extended = false)
    (h : Finishes st (wrap name p ++ back) fin) :
    ∃ e k inner, Expr.read p = .ok e ∧
      e.AllGroups (fun i name => 0 < i ∧ i ≤ k ∧ ∀ n ∈ name, n ∈ inner) ∧
      (∀ n ∈ name, n ∉ st.names) ∧
      Finishes { st with
        items := .group (wrapKind st.groups name) (e.shift (wrapStart st.groups name)) :: st.items
        groups := wrapStart st.groups name + k
        names := inner ++ name.toList ++ st.names } back fin := by
  obtain ⟨e, he⟩ := hp.read
  obtain ⟨hnew, h⟩ := h.opened hp.name_line hextended
  obtain ⟨k, inner, hcounted, h⟩ := h.group he hback hfin
  rw [← List.append_assoc] at h
  exact ⟨e, k, inner, he, hcounted, hnew, h⟩

/-! ## Rows -/

/-- The texts of a row in their groups, one after another. -/
def wrapAll (parts : List (Option String × List Char)) : List Char :=
  parts.flatMap fun part => wrap part.1 part.2

theorem newline_not_mem_wrapAll {parts : List (Option String × List Char)}
    (hparts : ∀ part ∈ parts, Wrappable part.1 part.2) : '\n' ∉ wrapAll parts := by
  intro hmem
  obtain ⟨part, hpart, hmem⟩ := List.mem_flatMap.1 hmem
  exact (hparts part hpart).newline_not_mem hmem

/-- Groups one after another are read as a row of groups. -/
theorem Finishes.sequence {parts : List (Option String × List Char)}
    (hparts : ∀ part ∈ parts, Wrappable part.1 part.2) (hback : '\n' ∉ back)
    (hfin : fin.frames = []) (hextended : st.extended = false)
    (h : Finishes st (wrapAll parts ++ back) fin) :
    ∃ es high known, Wrapped st.groups st.names parts es high known ∧
      Finishes { st with items := es.reverse ++ st.items, groups := high, names := known }
        back fin := by
  induction parts generalizing st with
  | nil => exact ⟨[], st.groups, st.names, .nil, h⟩
  | cons part parts ih =>
    obtain ⟨hpart, hparts⟩ := List.forall_mem_cons.1 hparts
    have hline : '\n' ∉ wrapAll parts ++ back := by
      rw [List.mem_append, not_or]
      exact ⟨newline_not_mem_wrapAll hparts, hback⟩
    rw [wrapAll, List.flatMap_cons, List.append_assoc] at h
    obtain ⟨e, k, inner, hread, hcounted, hnew, h⟩ := h.wrapped hpart hline hfin hextended
    obtain ⟨es, high, known, hrow, h⟩ := ih hparts (by exact hextended) h
    refine ⟨_, high, known, .cons hread hcounted hnew hrow, ?_⟩
    simpa using h

theorem newline_not_mem_flatMap_bar {parts : List (Option String × List Char)}
    (hparts : ∀ part ∈ parts, Wrappable part.1 part.2) :
    '\n' ∉ parts.flatMap fun p => '|' :: wrap p.1 p.2 := by
  intro hmem
  obtain ⟨part, hpart, hmem⟩ := List.mem_flatMap.1 hmem
  rcases List.mem_cons.1 hmem with heq | hmem
  · simp at heq
  · exact (hparts part hpart).newline_not_mem hmem

/-- Groups with bars between them are read as alternatives, each of them a group. -/
theorem Finishes.alternatives {part : Option String × List Char}
    {parts : List (Option String × List Char)}
    (hparts : ∀ p ∈ part :: parts, Wrappable p.1 p.2) (hback : '\n' ∉ back)
    (hfin : fin.frames = []) (hextended : st.extended = false) (hitems : st.items = [])
    (h : Finishes st (wrap part.1 part.2 ++ (parts.flatMap fun p => '|' :: wrap p.1 p.2) ++ back)
      fin) :
    ∃ es e high known, Wrapped st.groups st.names (part :: parts) (es ++ [e]) high known ∧
      Finishes { st with
        items := [e], branches := es.reverse ++ st.branches, groups := high, names := known }
        back fin := by
  induction parts generalizing st part with
  | nil =>
    rw [List.flatMap_nil, List.append_nil] at h
    obtain ⟨e, k, inner, hread, hcounted, hnew, h⟩ :=
      h.wrapped (hparts part List.mem_cons_self) hback hfin hextended
    rw [hitems] at h
    exact ⟨[], _, _, _, .cons hread hcounted hnew .nil, h⟩
  | cons next parts ih =>
    obtain ⟨hpart, hparts⟩ := List.forall_mem_cons.1 hparts
    have hline : '\n' ∉ ((next :: parts).flatMap fun p => '|' :: wrap p.1 p.2) ++ back := by
      rw [List.mem_append, not_or]
      exact ⟨newline_not_mem_flatMap_bar hparts, hback⟩
    rw [List.append_assoc] at h
    obtain ⟨e, k, inner, hread, hcounted, hnew, h⟩ := h.wrapped hpart hline hfin hextended
    rw [hitems, List.flatMap_cons, List.cons_append, List.cons_append] at h
    obtain ⟨st₁, htake, h⟩ := h.token (by exact hextended) rfl
    obtain rfl := Except.ok.inj htake
    obtain ⟨es, last, high, known, hrow, h⟩ :=
      ih hparts (by exact hextended) (by rfl) h
    exact ⟨_ :: es, last, high, known, .cons hread hcounted hnew hrow, by
      simpa [State.nextBranch, Expr.ofSequence] using h⟩

end Reader

end PatternGrammar.Regex
