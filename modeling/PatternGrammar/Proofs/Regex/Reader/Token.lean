import PatternGrammar.Proofs.Regex.Reader.Class
import PatternGrammar.Proofs.Regex.Reader.Group
import PatternGrammar.Regex.Reader

/-!
# Tokens in front of a closing parenthesis

One part of a regular expression, whatever it is, is read the same with a closing parenthesis and
more text behind it (`Reader.readToken_local`), and so is a step of the reader
(`Reader.step_local`).
-/

namespace PatternGrammar.Regex.Reader

variable {back cs cs' rest : List Char} {extended : Bool}

/-! ## Counts -/

theorem readUpperCount_keep {lower : Option ℕ} (h : ∀ ds, cs ≠ ',' :: ds) :
    readUpperCount extended lower cs = .ok (lower, cs) := by
  unfold readUpperCount
  split
  · exact absurd rfl (h _)
  · rfl

theorem readUpperCount_local (hback : Closing back) (lower : Option ℕ) :
    Local back (readUpperCount extended lower) := by
  intro cs cs' x rest hcs h
  by_cases hcomma : ∃ ds, cs = ',' :: ds
  · obtain ⟨ds, rfl⟩ := hcomma
    rw [hcs.eq_append]
    simp only [readUpperCount] at h ⊢
    have hskip : Follows back (skip extended ds) (skip extended (ds ++ back)) :=
      Follows.refl.skip extended hback
    split at h
    · rename_i hbrace
      rw [hbrace] at hskip
      obtain ⟨rfl, rfl⟩ := Prod.mk.inj (Except.ok.inj h)
      rw [hskip.eq_append]
      exact ⟨_, rfl, .refl⟩
    · rename_i hbrace
      cases hread : readCount extended (skip extended ds) with
      | error e => simp [hread] at h
      | ok read =>
        obtain ⟨count, left⟩ := read
        obtain ⟨left', hread', hleft⟩ := readCount_local hback _ _ _ _ hskip hread
        cases count with
        | none => simp [hread] at h
        | some n =>
          rw [hread] at h
          obtain ⟨rfl, rfl⟩ := Prod.mk.inj (Except.ok.inj h)
          refine ⟨left', ?_, hleft⟩
          split
          · rename_i heq
            exact absurd heq (hskip.ne_cons hback (by decide) hbrace _)
          · rw [hread']
  · rw [not_exists] at hcomma
    rw [readUpperCount_keep hcomma] at h
    obtain ⟨rfl, rfl⟩ := Prod.mk.inj (Except.ok.inj h)
    exact ⟨cs', readUpperCount_keep (hcs.ne_cons hback (by decide) hcomma), hcs⟩

theorem readGreed_keep (h : ∀ ds, cs ≠ '?' :: ds) : readGreed cs = (true, cs) := by
  unfold readGreed
  split
  · exact absurd rfl (h _)
  · rfl

theorem readGreed_follows (hback : Closing back) (h : Follows back cs cs') :
    (readGreed cs').1 = (readGreed cs).1 ∧ Follows back (readGreed cs).2 (readGreed cs').2 := by
  by_cases hmark : ∃ ds, cs = '?' :: ds
  · obtain ⟨ds, rfl⟩ := hmark
    rw [h.eq_append]
    exact ⟨rfl, .refl⟩
  · rw [not_exists] at hmark
    rw [readGreed_keep hmark, readGreed_keep (h.ne_cons hback (by decide) hmark)]
    exact ⟨rfl, h⟩

theorem readCounts_local (hback : Closing back) : Local back (readCounts extended) := by
  intro cs cs' counts rest hcs h
  obtain ⟨⟨lower, mid⟩, hlower, h⟩ := bind_eq_ok.1 h
  obtain ⟨⟨upper, mid₂⟩, hupper, h⟩ := bind_eq_ok.1 h
  obtain ⟨mid', hlower', hmid⟩ := readCount_local hback _ _ _ _ (hcs.skip extended hback) hlower
  obtain ⟨mid₂', hupper', hmid₂⟩ := readUpperCount_local hback lower _ _ _ _ hmid hupper
  dsimp only at h
  split at h
  · rename_i lower left _
    rw [hmid₂.eq_append] at hupper'
    obtain ⟨hgreedy, hrest⟩ := readGreed_follows hback
      (Follows.refl.skip extended hback : Follows back (skip extended left) _)
    split at h
    · rename_i hle
      obtain ⟨rfl, rfl⟩ := Prod.mk.inj (Except.ok.inj h)
      refine ⟨_, bind_eq_ok.2 ⟨_, hlower', bind_eq_ok.2 ⟨_, hupper', ?_⟩⟩, hrest⟩
      rw [← hgreedy]
      exact if_pos hle
    · simp at h
  · simp at h

/-! ## Tokens -/

/-- The characters that do not stand for themselves. -/
def marks : List Char := ['(', ')', '|', '[', '?', '*', '+', '{', '\\', '.', '^', '$']

theorem readToken_literal {c : Char} (hc : c ∉ marks) (cs : List Char) :
    readToken extended (c :: cs) = .ok (.atom (.literal c false), cs) := by
  unfold readToken
  split
  all_goals first
    | rfl
    | simp_all [marks]

theorem readToken_local (hback : Closing back) : Local back (readToken extended) := by
  have hrepeat (min : ℕ) (max : Option ℕ) :
      Local back fun cs => .ok (Token.repetition min max (readGreed cs).1, (readGreed cs).2) := by
    intro cs cs' token rest hcs h
    obtain ⟨hgreedy, hrest⟩ := readGreed_follows hback hcs
    obtain ⟨rfl, rfl⟩ := Prod.mk.inj (Except.ok.inj h)
    refine ⟨(readGreed cs').2, ?_, hrest⟩
    dsimp only
    rw [hgreedy]
  intro cs cs' token rest hcs h
  unfold readToken at h
  split at h
  · simp at h
  · rw [hcs.eq_append]
    exact (readOpening_local hback).bind (fun o => .keep (Token.opening o)) _ _ _ _ .refl h
  · rw [hcs.eq_append]
    exact Local.keep Token.closing _ _ _ _ .refl h
  · rw [hcs.eq_append]
    exact Local.keep Token.bar _ _ _ _ .refl h
  · rw [hcs.eq_append]
    exact (readClass_local hback).bind (fun c => .keep (Token.bracketed c)) _ _ _ _ .refl h
  · rw [hcs.eq_append]
    exact hrepeat 0 (some 1) _ _ _ _ .refl h
  · rw [hcs.eq_append]
    exact hrepeat 0 none _ _ _ _ .refl h
  · rw [hcs.eq_append]
    exact hrepeat 1 none _ _ _ _ .refl h
  · rw [hcs.eq_append]
    exact (readCounts_local hback).bind
      (fun counts => .keep (Token.repetition counts.1 counts.2.1 counts.2.2)) _ _ _ _ .refl h
  · rw [hcs.eq_append]
    exact (readEscape_local hback).bind (fun a => .keep (Token.atom a)) _ _ _ _ .refl h
  · rw [hcs.eq_append]
    exact Local.keep (Token.atom .dot) _ _ _ _ .refl h
  · rw [hcs.eq_append]
    exact Local.keep (Token.atom (.assertion .caret)) _ _ _ _ .refl h
  · rw [hcs.eq_append]
    exact Local.keep (Token.atom (.assertion .dollar)) _ _ _ _ .refl h
  · rename_i c ds _ _ _ _ _ _ _ _ _ _ _ _
    have hc : c ∉ marks := by simp_all [marks]
    rw [hcs.eq_append, readToken_literal hc]
    exact Local.keep (Token.atom (.literal c false)) _ _ _ _ .refl h

theorem step_local (hback : Closing back) (st : State) : Local back (step st) :=
  (readToken_local hback).bind fun token => .lift (st.take token)

end PatternGrammar.Regex.Reader
