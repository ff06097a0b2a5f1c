import Mathlib.Data.Bool.AllAny
import Mathlib.Data.List.TakeWhile
import PatternGrammar.Proofs.Regex.Reader.Escape
import PatternGrammar.Regex.Reader.Class

/-!
# Bracketed classes in front of a closing parenthesis

A class in brackets ends at its own bracket, so that it is read the same with a closing parenthesis
and more text behind it (`Reader.readClass_local`). The fuel of the reader is the length of the
text; more of it changes nothing.
-/

namespace PatternGrammar.Regex.Reader

open PatternGrammar.Text (isBlank)

variable {back cs cs' rest : List Char} {extended : Bool}

/-! ## The start of a class -/

theorem leadingHyphens_follows (extended : Bool) (hback : Closing back) {n m : ℕ} (hcs : Follows back cs cs')
    (hn : cs.length ≤ n) (hm : cs'.length ≤ m) :
    (leadingHyphens extended m cs').1 = (leadingHyphens extended n cs).1 ∧
      Follows back (leadingHyphens extended n cs).2 (leadingHyphens extended m cs').2 := by
  have hkeep : ∀ {k ds}, (∀ es, ds ≠ '-' :: es) → leadingHyphens extended k ds = ([], ds) := by
    intro k ds hds
    unfold leadingHyphens
    split
    · exact absurd rfl (hds _)
    · rfl
  induction n generalizing cs cs' m with
  | zero =>
    obtain rfl := List.eq_nil_of_length_eq_zero (Nat.le_zero.1 hn)
    rw [hkeep (hcs.ne_cons hback (by decide) (by simp)), hkeep (by simp)]
    exact ⟨rfl, hcs⟩
  | succ n ih =>
    by_cases hhyphen : ∃ ds, cs = '-' :: ds
    · obtain ⟨ds, rfl⟩ := hhyphen
      obtain rfl := hcs.eq_append
      simp only [List.length_cons] at hn hm
      obtain ⟨m, rfl⟩ : ∃ k, m = k + 1 := ⟨m - 1, by omega⟩
      have hskip := length_skip_le extended ds
      have hskip' := length_skip_le extended (ds ++ back)
      have hds : Follows back (skip extended ds) (skip extended (ds ++ back)) :=
        Follows.refl.skip extended hback
      obtain ⟨htaken, hrest⟩ := ih (m := m) hds (by omega) (by omega)
      rw [leadingHyphens, leadingHyphens]
      exact ⟨congrArg (.literal '-' :: ·) htaken, hrest⟩
    · rw [not_exists] at hhyphen
      rw [hkeep (hcs.ne_cons hback (by decide) hhyphen), hkeep hhyphen]
      exact ⟨rfl, hcs⟩

theorem readNegation_follows (extended : Bool) (hback : Closing back) (hcs : Follows back cs cs') :
    (readNegation extended cs').1 = (readNegation extended cs).1 ∧
      Follows back (readNegation extended cs).2 (readNegation extended cs').2 := by
  have hkeep : ∀ {ds}, (∀ es, ds ≠ '^' :: es) → readNegation extended ds = (false, ds) := by
    intro ds hds
    unfold readNegation
    split
    · exact absurd rfl (hds _)
    · rfl
  by_cases hcaret : ∃ ds, cs = '^' :: ds
  · obtain ⟨ds, rfl⟩ := hcaret
    obtain rfl := hcs.eq_append
    exact ⟨rfl, Follows.refl.skip extended hback⟩
  · rw [not_exists] at hcaret
    rw [hkeep (hcs.ne_cons hback (by decide) hcaret), hkeep hcaret]
    exact ⟨rfl, hcs⟩

theorem openClass_local (hback : Closing back) {negated : Bool} {items : List ClassExpr}
    (hcs : Follows back cs cs') (h : openClass extended cs = .ok (negated, items, rest)) :
    ∃ rest', openClass extended cs' = .ok (negated, items, rest') ∧ Follows back rest rest' := by
  obtain ⟨hnegated, hmid⟩ := readNegation_follows extended hback (hcs.skip extended hback)
  obtain ⟨hitems, hleft⟩ := leadingHyphens_follows extended hback hmid
    (Nat.le_refl _) (Nat.le_refl _)
  simp only [openClass] at h ⊢
  rw [hnegated]
  generalize leadingHyphens extended _ _ = first at h hitems hleft
  generalize leadingHyphens extended _ _ = first' at hitems hleft ⊢
  obtain ⟨items₁, left⟩ := first
  obtain ⟨items₂, left'⟩ := first'
  obtain rfl : items₂ = items₁ := hitems
  dsimp only at hleft
  split at h
  · simp at h
  · rename_i after heq
    obtain ⟨rfl, rfl⟩ := Prod.mk.inj heq
    obtain rfl := hleft.eq_append
    have hskip : Follows back (skip extended after) (skip extended (after ++ back)) :=
      Follows.refl.skip extended hback
    generalize skip extended after = ds at h hskip
    cases ds with
    | nil => simp at h
    | cons d ds =>
      simp only [Except.ok.injEq, Prod.mk.injEq] at h
      obtain ⟨rfl, rfl, rfl⟩ := h
      refine ⟨d :: (ds ++ back), ?_, .refl⟩
      simp only
      rw [hskip.eq_append]
  · rename_i hnil hbracket heq
    obtain ⟨rfl, rfl⟩ := Prod.mk.inj heq
    simp only [Except.ok.injEq, Prod.mk.injEq] at h
    obtain ⟨rfl, rfl, rfl⟩ := h
    refine ⟨left', ?_, hleft⟩
    split
    · rename_i heq'
      obtain ⟨-, rfl⟩ := Prod.mk.inj heq'
      exact (hnil hleft.eq_nil).elim
    · rename_i heq'
      obtain ⟨rfl, rfl⟩ := Prod.mk.inj heq'
      exact absurd rfl (hleft.ne_cons hback (by decide) (fun ds => hbracket ds rfl) _)
    · rename_i heq'
      obtain ⟨rfl, rfl⟩ := Prod.mk.inj heq'
      rfl

/-! ## Classes of ASCII characters by name -/

theorem lookup_asciiClassNames {name : List Char} {c : Char} (hc : c ∈ [')', '|', '('])
    (h : c ∈ name) : asciiClassNames.lookup (String.ofList name) = none := by
  rw [List.lookup_eq_none_iff]
  intro entry hentry
  have hnames : ∀ c ∈ [')', '|', '('], ∀ entry ∈ asciiClassNames, c ∉ entry.1.toList :=
    List.all_iff_forall_prop.1 (by decide)
  rw [bne_iff_ne]
  rintro heq
  exact hnames c hc entry hentry (by rw [← heq, String.toList_ofList]; exact h)

theorem readAsciiName?_append (hback : Closing back) (negated : Bool) (cs : List Char) :
    readAsciiName? negated (cs ++ back) =
      (readAsciiName? negated cs).map fun x => (x.1, x.2 ++ back) := by
  unfold readAsciiName?
  cases hdrop : cs.dropWhile (· != ':') with
  | nil =>
    -- the name goes on into what stands behind, so that it has a closing parenthesis in it
    obtain ⟨tail, rfl, -⟩ := hback
    have hmem : ')' ∈ (cs ++ ')' :: tail).takeWhile (· != ':') := by
      rw [List.takeWhile_append_of_pos (List.dropWhile_eq_nil_iff.1 hdrop)]
      simp
    simp only [lookup_asciiClassNames List.mem_cons_self hmem, Option.map_none]
    split <;> rfl
  | cons c rest =>
    obtain ⟨htake, hdrop'⟩ := cut_append back hdrop
    rw [htake, hdrop']
    obtain ⟨tail, rfl, -⟩ := hback
    cases rest with
    | nil => simp
    | cons d rest =>
      by_cases hc : c = ':' ∧ d = ']'
      · obtain ⟨rfl, rfl⟩ := hc
        simp [Function.comp_def]
      · split <;> split <;> simp_all

theorem readAsciiClass?_eq_none (h : ∀ ds, cs ≠ ':' :: ds) : readAsciiClass? cs = none := by
  unfold readAsciiClass?
  split
  · exact absurd rfl (h _)
  · exact absurd rfl (h _)
  · rfl

theorem readAsciiClass?_colon (h : ∀ ds, cs ≠ '^' :: ds) :
    readAsciiClass? (':' :: cs) = readAsciiName? false cs := by
  unfold readAsciiClass?
  split
  · rename_i heq
    exact absurd (List.cons.inj heq).2 (h _)
  · rename_i heq
    rw [(List.cons.inj heq).2]
  · rename_i hcolon
    exact absurd rfl (hcolon cs)

theorem readAsciiClass?_append (hback : Closing back) (cs : List Char) :
    readAsciiClass? (cs ++ back) = (readAsciiClass? cs).map fun x => (x.1, x.2 ++ back) := by
  have hcs : Follows back cs (cs ++ back) := .refl
  by_cases hcolon : ∃ ds, cs = ':' :: ds
  · obtain ⟨ds, rfl⟩ := hcolon
    have hds : Follows back ds (ds ++ back) := .refl
    by_cases hcaret : ∃ es, ds = '^' :: es
    · obtain ⟨es, rfl⟩ := hcaret
      exact readAsciiName?_append hback true es
    · rw [not_exists] at hcaret
      rw [List.cons_append, readAsciiClass?_colon (hds.ne_cons hback (by decide) hcaret),
        readAsciiClass?_colon hcaret]
      exact readAsciiName?_append hback false ds
  · rw [not_exists] at hcolon
    rw [readAsciiClass?_eq_none (hcs.ne_cons hback (by decide) hcolon),
      readAsciiClass?_eq_none hcolon]
    rfl

/-! ## Items -/

theorem readClassAtom_local (hback : Closing back) : Local back (readClassAtom extended) := by
  intro cs cs' atom rest hcs h
  unfold readClassAtom at h
  split at h
  · simp at h
  · obtain rfl := hcs.eq_append
    exact readEscape_local hback _ _ _ _ .refl h
  · rename_i hslash
    obtain ⟨rfl, rfl⟩ := Prod.mk.inj (Except.ok.inj h)
    obtain rfl := hcs.eq_append
    refine ⟨_, ?_, .refl⟩
    unfold readClassAtom
    split
    · rename_i heq
      simp at heq
    · rename_i heq
      exact (hslash (List.cons.inj heq).1).elim
    · rename_i heq
      obtain ⟨rfl, rfl⟩ := List.cons.inj heq
      rfl

theorem skipBlanks_of_blank {cs : List Char} (inComment : Bool) (h : ∀ c ∈ cs, isBlank c) :
    skipBlanks inComment cs = [] := by
  induction cs generalizing inComment with
  | nil => rfl
  | cons c cs ih =>
    have hcs := fun b => ih b fun d hd => h d (List.mem_cons_of_mem _ hd)
    rw [skipBlanks, if_pos (h c List.mem_cons_self), hcs, hcs]
    split <;> rfl

theorem skipBlanks_dropWhile (cs : List Char) :
    skipBlanks false (cs.dropWhile isBlank) = skipBlanks false cs := by
  induction cs with
  | nil => rfl
  | cons c cs ih =>
    rw [List.dropWhile_cons]
    split
    · rename_i hc
      rw [ih, skipBlanks]
      simp [hc]
    · rfl

/-- Where no character comes after a hyphen, nothing but blanks and comments does. -/
theorem skip_of_afterHyphen? (h : afterHyphen? extended cs = none) : skip extended cs = [] := by
  unfold afterHyphen? at h
  cases extended with
  | false => simpa [skip] using h
  | true =>
    rw [if_pos rfl] at h
    rw [skip, if_pos rfl, ← skipBlanks_dropWhile]
    split at h
    · rename_i rest hrest
      rw [List.head?_eq_none_iff, List.dropWhile_eq_nil_iff] at h
      rw [hrest, skipBlanks]
      simp [isBlank, skipBlanks_of_blank true h]
    · rw [List.head?_eq_none_iff] at h
      rw [h]
      rfl

/-- The character after a hyphen is the same, if there is one. -/
theorem afterHyphen?_append (hback : Closing back) {c : Char}
    (h : afterHyphen? extended cs = some c) : afterHyphen? extended (cs ++ back) = some c := by
  have hhead : ∀ {ds ds' : List Char}, Follows back ds ds' → ds.head? = some c →
      ds'.head? = some c := by
    intro ds ds' hds hc
    obtain ⟨es, rfl⟩ := List.head?_eq_some_iff.1 hc
    rw [hds.eq_append, List.head?_cons]
  have hdrop : ∀ ds : List Char,
      Follows back (ds.dropWhile isBlank) ((ds ++ back).dropWhile isBlank) :=
    fun ds => Follows.refl.dropWhile hback (by decide)
  unfold afterHyphen? at h ⊢
  split at h
  · rename_i hextended
    rw [if_pos hextended]
    have hcs := hdrop cs
    split at h
    · rename_i ds hmark
      rw [hmark] at hcs
      rw [hcs.eq_append]
      exact hhead (hdrop ds) h
    · rename_i hmark
      split
      · rename_i heq
        exact absurd heq (hcs.ne_cons hback (by decide) hmark _)
      · exact hhead hcs h
  · rename_i hextended
    rw [if_neg hextended]
    exact hhead .refl h

theorem readRange_local (hback : Closing back) (first : Atom) :
    Local back (readRange extended first) := by
  intro cs cs' item rest hcs h
  obtain ⟨⟨last, mid⟩, hlast, h⟩ := bind_eq_ok.1 h
  obtain ⟨lo, hlo, h⟩ := bind_eq_ok.1 h
  obtain ⟨hi, hhi, h⟩ := bind_eq_ok.1 h
  obtain ⟨mid', hlast', hmid⟩ := readClassAtom_local hback _ _ _ _ (hcs.skip extended hback) hlast
  split at h
  · rename_i hle
    obtain ⟨rfl, rfl⟩ := Prod.mk.inj (Except.ok.inj h)
    refine ⟨mid', bind_eq_ok.2 ⟨_, hlast', bind_eq_ok.2 ⟨lo, hlo, bind_eq_ok.2 ⟨hi, hhi, ?_⟩⟩⟩, hmid⟩
    exact if_pos hle
  · simp at h

theorem readItemFrom_local (hback : Closing back) (first : Atom) :
    Local back (readItemFrom extended first) := by
  intro cs cs' item rest hcs h
  have hskip := hcs.skip extended hback
  unfold readItemFrom at h ⊢
  split at h
  · simp at h
  · rename_i after hmark
    rw [hmark] at hskip
    rw [hskip.eq_append]
    cases hnext : afterHyphen? extended after with
    | none =>
      have hread : readRange extended first after = .error .unclosedClass := by
        rw [readRange, skip_of_afterHyphen? hnext]
        rfl
      rw [hnext, hread] at h
      simp at h
    | some c =>
      simp only [afterHyphen?_append hback hnext]
      simp only [hnext] at h
      split at h
      · rename_i hstop
        obtain ⟨item', hitem, h⟩ := bind_eq_ok.1 h
        obtain ⟨rfl, rfl⟩ := Prod.mk.inj (Except.ok.inj h)
        exact ⟨_, by rw [if_pos hstop, hitem]; rfl, .refl⟩
      · rename_i hstop
        rw [if_neg hstop]
        exact readRange_local hback first _ _ _ _ .refl h
  · rename_i hnil hmark
    obtain ⟨item', hitem, h⟩ := bind_eq_ok.1 h
    obtain ⟨rfl, rfl⟩ := Prod.mk.inj (Except.ok.inj h)
    refine ⟨_, ?_, hskip⟩
    split
    · rename_i heq
      rw [heq] at hskip
      exact (hnil hskip.eq_nil).elim
    · rename_i heq
      exact absurd heq (hskip.ne_cons hback (by decide) hmark _)
    · exact bind_eq_ok.2 ⟨_, hitem, rfl⟩

theorem readClassItem_local (hback : Closing back) : Local back (readClassItem extended) :=
  (readClassAtom_local hback).bind fun first => readItemFrom_local hback first

/-! ## Rows of items -/

theorem setOp?_append (hback : Closing back) (c : Char) (cs : List Char) :
    setOp? (c :: (cs ++ back)) = (setOp? (c :: cs)).map fun x => (x.1, x.2 ++ back) := by
  obtain ⟨tail, rfl, -⟩ := hback
  cases cs with
  | nil => simp [setOp?]
  | cons d cs =>
    unfold setOp?
    split <;> split <;> simp_all

theorem readClassFor_local (hback : Closing back) {n m : ℕ} (hnm : n ≤ m)
    (frames : List ClassFrame) (items : List ClassExpr) (hcs : Follows back cs cs')
    {c : ClassExpr} (h : readClassFor extended n frames items cs = .ok (c, rest)) :
    ∃ rest', readClassFor extended m frames items cs' = .ok (c, rest') ∧
      Follows back rest rest' := by
  induction n generalizing m frames items cs cs' with
  | zero => simp [readClassFor] at h
  | succ n ih =>
    obtain ⟨m, rfl⟩ : ∃ k, m = k + 1 := ⟨m - 1, by omega⟩
    have hskip := hcs.skip extended hback
    rw [readClassFor] at h ⊢
    split at h
    · simp at h
    · rename_i after hmark
      rw [hmark] at hskip
      rw [hskip.eq_append]
      simp only
      split at h
      · obtain ⟨rfl, rfl⟩ := Prod.mk.inj (Except.ok.inj h)
        exact ⟨_, rfl, .refl⟩
      · exact ih (by omega) _ _ .refl h
      · simp at h
    · rename_i after hmark
      rw [hmark] at hskip
      rw [hskip.eq_append]
      simp only [readAsciiClass?_append hback]
      cases hname : readAsciiClass? after with
      | some named =>
        rw [hname] at h
        exact ih (by omega) _ _ .refl h
      | none =>
        rw [hname] at h
        obtain ⟨⟨negated, first, left⟩, hopen, h⟩ := bind_eq_ok.1 h
        obtain ⟨left', hopen', hleft⟩ := openClass_local hback .refl hopen
        obtain ⟨rest', hrest', hfollows⟩ := ih (m := m) (by omega) _ _ hleft h
        exact ⟨rest', bind_eq_ok.2 ⟨_, hopen', hrest'⟩, hfollows⟩
    · rename_i hnil hclose hopen
      cases hds : skip extended cs with
      | nil => exact (hnil hds).elim
      | cons d ds =>
        rw [hds] at hskip h hclose hopen
        rw [hskip.eq_append]
        split
        · rename_i heq
          simp at heq
        · rename_i heq
          exact (hclose ds (by rw [(List.cons.inj heq).1])).elim
        · rename_i heq
          exact (hopen ds (by rw [(List.cons.inj heq).1])).elim
        · rw [setOp?_append hback]
          cases hop : setOp? (d :: ds) with
          | some op =>
            rw [hop] at h
            exact ih (by omega) _ _ .refl h
          | none =>
            rw [hop] at h
            obtain ⟨⟨item, left⟩, hitem, h⟩ := bind_eq_ok.1 h
            obtain ⟨left', hitem', hleft⟩ := readClassItem_local hback _ _ _ _ .refl hitem
            obtain ⟨rest', hrest', hfollows⟩ := ih (m := m) (by omega) _ _ hleft h
            exact ⟨rest', bind_eq_ok.2 ⟨_, hitem', hrest'⟩, hfollows⟩

theorem readClass_local (hback : Closing back) : Local back (readClass extended) := by
  intro cs cs' c rest hcs h
  obtain ⟨⟨negated, items, mid⟩, hopen, h⟩ := bind_eq_ok.1 h
  obtain ⟨mid', hopen', hmid⟩ := openClass_local hback hcs hopen
  have hlength : mid.length ≤ mid'.length := by
    rcases hmid with rfl | ⟨rfl, rfl⟩
    · rw [List.length_append]
      omega
    · exact Nat.le_refl _
  obtain ⟨rest', hrest', hfollows⟩ := readClassFor_local hback (Nat.succ_le_succ hlength) _ _ hmid h
  exact ⟨rest', bind_eq_ok.2 ⟨_, hopen', hrest'⟩, hfollows⟩

end PatternGrammar.Regex.Reader
