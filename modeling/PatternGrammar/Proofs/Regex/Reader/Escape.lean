import PatternGrammar.Proofs.Regex.Reader.Lexical
import PatternGrammar.Regex.Reader.Escape

/-!
# Escapes in front of a closing parenthesis

An escape is read the same with a closing parenthesis and more text behind it
(`Reader.readEscape_local`).
-/

namespace PatternGrammar.Regex.Reader

variable {back cs cs' rest : List Char} {extended : Bool}

theorem readProperty_local (hback : Closing back) {q : Unicode.PropertyQuery} {negated : Bool}
    (hcs : Follows back cs cs') (h : readProperty extended cs = .ok (q, negated, rest)) :
    ∃ rest', readProperty extended cs' = .ok (q, negated, rest') ∧ Follows back rest rest' := by
  have hskip : Follows back (skip extended cs) (skip extended cs') := hcs.skip extended hback
  unfold readProperty at h ⊢
  generalize skip extended cs = ds at h hskip
  cases ds with
  | nil => simp at h
  | cons d ds =>
    rw [hskip.eq_append]
    split at h
    · simp at h
    · rename_i heq
      obtain ⟨rfl, rfl⟩ := List.cons.inj heq
      split at h
      · simp at h
      · rename_i hcollect
        simp only [collect_braces hback hcollect]
        dsimp only at h ⊢
        generalize propertyQuery _ = query at h ⊢
        obtain ⟨query, negated⟩ := query
        simp only [Except.ok.injEq, Prod.mk.injEq] at h ⊢
        obtain ⟨rfl, rfl, rfl⟩ := h
        exact ⟨_, ⟨rfl, rfl, rfl⟩, .refl⟩
    · simp at h
    · rename_i hbrace hslash heq
      obtain ⟨rfl, rfl⟩ := List.cons.inj heq
      simp only [Except.ok.injEq, Prod.mk.injEq] at h
      obtain ⟨rfl, rfl, rfl⟩ := h
      refine ⟨_, ?_, Follows.refl.skip extended hback⟩
      split
      · rename_i heq
        simp at heq
      · rename_i heq
        exact (hbrace (List.cons.inj heq).1).elim
      · rename_i heq
        exact (hslash (List.cons.inj heq).1).elim
      · rename_i heq
        obtain ⟨rfl, rfl⟩ := List.cons.inj heq
        rfl

theorem readBoundary_local (hback : Closing back) : Local back (readBoundary extended) := by
  intro cs cs' a rest hcs h
  unfold readBoundary at h
  split at h
  · rename_i inner
    rw [hcs.eq_append]
    have hskip : Follows back (skip extended inner) (skip extended (inner ++ back)) :=
      Follows.refl.skip extended hback
    simp only [readBoundary]
    generalize skip extended inner = ds at h hskip
    cases ds with
    | nil => simp at h
    | cons d ds =>
      rw [hskip.eq_append]
      dsimp only at h ⊢
      split at h
      · rename_i hd
        split at h
        · rename_i name after hcollect
          obtain ⟨htaken, hrest⟩ := collect_follows extended isBoundaryChar hback
            (.refl : Follows back (d :: ds) _) (.inr (by decide))
          rw [hcollect] at htaken hrest
          have hcollect' : collect extended isBoundaryChar (d :: (ds ++ back)) =
              (name, '}' :: (after ++ back)) := Prod.ext htaken hrest.eq_append
          split at h
          · rename_i hname
            obtain ⟨rfl, rfl⟩ := Prod.mk.inj (Except.ok.inj h)
            refine ⟨_, ?_, .refl⟩
            simp only [if_pos hd, hcollect', hname]
          · simp at h
        · simp at h
      · rename_i hd
        obtain ⟨rfl, rfl⟩ := Prod.mk.inj (Except.ok.inj h)
        exact ⟨_, if_neg hd, .refl⟩
  · rename_i hbrace
    obtain ⟨rfl, rfl⟩ := Prod.mk.inj (Except.ok.inj h)
    refine ⟨cs', ?_, hcs⟩
    unfold readBoundary
    split
    · exact absurd rfl (hcs.ne_cons hback (by decide) hbrace _)
    · rfl

theorem readEscape_local (hback : Closing back) : Local back (readEscape extended) := by
  intro cs cs' atom rest hcs h
  cases cs with
  | nil => simp [readEscape] at h
  | cons c cs =>
    rw [hcs.eq_append]
    have hhex (width : ℕ) : Local back (readHex extended width) := readHex_local hback width
    have hboundary : Local back (readBoundary extended) := readBoundary_local hback
    have hu (width : ℕ) := (hhex width).bind fun ch => .keep (Atom.literal ch false)
    have hb := hboundary.bind fun a => .keep (Atom.assertion a)
    have hall : Local back fun cs => readEscape extended (c :: cs) := by
      refine .ite (.fail _) <| .ite ?hex <| .ite (hu 4) <| .ite (hu 8) <| .ite ?property <|
        .ite (.keep _) <| .ite (.keep _) <| .ite (.keep _) <| .ite (.keep _) <| .ite (.keep _) <|
        .ite (.keep _) <| .ite (.keep _) <| .ite (.keep _) <| .ite (.keep _) <| .ite (.keep _) <|
        .ite (.keep _) <| .ite hb <| .ite (.keep _) <| .ite (.keep _) <| .ite (.keep _) <|
        .ite (.keep _) (.fail _)
      case hex =>
        intro cs cs' atom rest hcs h
        obtain ⟨⟨ch, mid⟩, hch, h⟩ := bind_eq_ok.1 h
        obtain ⟨rfl, rfl⟩ := Prod.mk.inj (Except.ok.inj h)
        obtain ⟨mid', hch', hmid⟩ := readHex_local hback _ _ _ _ _ hcs hch
        rw [← head?_skip_of_readHex hback hcs hch]
        exact ⟨mid', bind_eq_ok.2 ⟨_, hch', rfl⟩, hmid⟩
      case property =>
        intro cs cs' atom rest hcs h
        obtain ⟨⟨q, negated, mid⟩, hq, h⟩ := bind_eq_ok.1 h
        obtain ⟨rfl, rfl⟩ := Prod.mk.inj (Except.ok.inj h)
        obtain ⟨mid', hq', hmid⟩ := readProperty_local hback hcs hq
        exact ⟨mid', bind_eq_ok.2 ⟨_, hq', rfl⟩, hmid⟩
    exact hall cs _ atom rest .refl h

end PatternGrammar.Regex.Reader
