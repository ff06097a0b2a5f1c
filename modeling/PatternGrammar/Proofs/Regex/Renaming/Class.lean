import PatternGrammar.Proofs.Regex.Reader.Class
import PatternGrammar.Proofs.Regex.Renaming.Lexical
import PatternGrammar.Proofs.Text.Trimming

/-!
# Classes in groups that are given names

An escape is read as far with names for the groups as without them (`Reader.readEscape_agree`), and
so is a class in brackets (`Reader.readClass_agree`). A class that goes through the beginning of a
group has more items where the group has a name, but no other brackets and no other operations.
-/

namespace PatternGrammar.Regex.Reader

variable {back cs cs' ds rest rest' : List Char} {b extended : Bool} {c d : Char}

/-! ## Escapes -/

/-- A property whose name has one letter ends behind it. -/
theorem rest_of_readProperty {q : Unicode.PropertyQuery} {negated : Bool}
    (hds : skip extended cs = d :: ds) (hd : d ≠ '{')
    (h : readProperty extended cs = .ok (q, negated, rest)) : rest = skip extended ds := by
  rw [readProperty, hds] at h
  split at h
  · simp at h
  · rename_i heq
    exact (hd (List.cons.inj heq).1).elim
  · simp at h
  · rename_i heq
    obtain ⟨rfl, rfl⟩ := List.cons.inj heq
    simp only [Except.ok.injEq, Prod.mk.injEq] at h
    exact h.2.2.symm

/-- A property whose name is in braces ends behind them. -/
theorem rest_of_readProperty_brace {q : Unicode.PropertyQuery} {negated : Bool}
    (hds : skip extended cs = '{' :: ds)
    (h : readProperty extended cs = .ok (q, negated, rest)) :
    ∃ c, (collect extended (· != '}') (skip extended ds)).2 = c :: rest := by
  simp only [readProperty, hds] at h
  split at h
  · simp at h
  · rename_i c after hcollect
    simp only [Except.ok.injEq, Prod.mk.injEq] at h
    obtain ⟨-, -, rfl⟩ := h
    exact ⟨c, congrArg Prod.snd hcollect⟩

theorem readProperty_agree (hback : Closing back) {q q' : Unicode.PropertyQuery}
    {negated negated' : Bool} (hcs : Renamed back false cs cs')
    (h : readProperty extended cs = .ok (q, negated, rest))
    (h' : readProperty extended cs' = .ok (q', negated', rest')) :
    Renamed back true rest rest' := by
  have hskip : Renamed back false (skip extended cs) (skip extended cs') := hcs.skip extended hback
  cases hds : skip extended cs with
  | nil => simp [readProperty, hds] at h
  | cons d ds =>
    rw [hds] at hskip
    obtain ⟨ds', hds', hrest⟩ := hskip.exists_cons
    by_cases hd : d = '{'
    · subst hd
      obtain ⟨c, hcollect⟩ := rest_of_readProperty_brace hds h
      obtain ⟨c', hcollect'⟩ := rest_of_readProperty_brace hds' h'
      obtain ⟨left, hleft, hrenamed⟩ := (hrest.skip extended hback).collect_braces hback hcollect
      rw [hcollect'] at hleft
      obtain ⟨-, rfl⟩ := List.cons.inj hleft
      exact hrenamed
    · rw [rest_of_readProperty hds hd h, rest_of_readProperty hds' hd h']
      exact (hrest.skip extended hback).anywhere

theorem readBoundary_keep {a : Assertion} (hcs : ∀ ds, cs ≠ '{' :: ds)
    (h : readBoundary extended cs = .ok (a, rest)) : rest = cs := by
  unfold readBoundary at h
  split at h
  · exact absurd rfl (hcs _)
  · exact (Prod.mk.inj (Except.ok.inj h)).2.symm

/-- Behind an opening brace a word boundary ends at the closing one, or in front of what may be a
count. -/
theorem rest_of_readBoundary {a : Assertion}
    (h : readBoundary extended ('{' :: cs) = .ok (a, rest)) :
    ∃ c ds, skip extended cs = c :: ds ∧
      if isBoundaryChar c then (collect extended isBoundaryChar (c :: ds)).2 = '}' :: rest
      else rest = '{' :: cs := by
  simp only [readBoundary] at h
  split at h
  · simp at h
  · rename_i c ds hds
    refine ⟨c, ds, hds, ?_⟩
    split at h
    · rename_i hc
      rw [if_pos hc]
      split at h
      · rename_i hcollect
        split at h
        · obtain ⟨-, rfl⟩ := Prod.mk.inj (Except.ok.inj h)
          exact congrArg Prod.snd hcollect
        · simp at h
      · simp at h
    · rename_i hc
      rw [if_neg hc]
      exact (Prod.mk.inj (Except.ok.inj h)).2.symm

theorem readBoundary_agree (hback : Closing back) :
    Agree back false (readBoundary extended) (readBoundary extended) := by
  intro cs cs' a a' rest rest' hcs h h'
  by_cases hbrace : ∃ ds, cs = '{' :: ds
  · obtain ⟨inner, rfl⟩ := hbrace
    obtain ⟨inner', rfl, hinner⟩ := hcs.exists_cons
    obtain ⟨c, ds, hds, hrest⟩ := rest_of_readBoundary h
    obtain ⟨c', ds', hds', hrest'⟩ := rest_of_readBoundary h'
    have hskip : Renamed back false (skip extended inner) (skip extended inner') :=
      hinner.skip extended hback
    rw [hds, hds'] at hskip
    obtain ⟨left, heq, -⟩ := hskip.exists_cons
    obtain ⟨rfl, rfl⟩ := List.cons.inj heq
    split at hrest
    · rename_i hc
      rw [if_pos hc] at hrest'
      have hcollect : Renamed back false (collect extended isBoundaryChar _).2
          (collect extended isBoundaryChar _).2 := hskip.collect hback (by decide)
      rw [hrest, hrest'] at hcollect
      obtain ⟨left, heq, hrenamed⟩ := hcollect.exists_cons
      obtain ⟨-, rfl⟩ := List.cons.inj heq
      exact hrenamed.anywhere
    · rename_i hc
      rw [if_neg hc] at hrest'
      rw [hrest, hrest']
      exact hcs.anywhere
  · rw [not_exists] at hbrace
    rw [readBoundary_keep hbrace h,
      readBoundary_keep (hcs.ne_cons hback (by decide) hbrace) h']
    exact hcs.anywhere

theorem readEscape_agree (hback : Closing back) :
    Agree back false (readEscape extended) (readEscape extended) := by
  intro cs cs' atom atom' rest rest' hcs h h'
  cases cs with
  | nil => simp [readEscape] at h
  | cons c cs =>
    obtain ⟨cs', rfl, hrest⟩ := hcs.exists_cons
    have hends {d : Char} (hd : c == d) (hgroup : endsGroup d = false) : endsGroup c = false := by
      rw [eq_of_beq hd]
      exact hgroup
    have hhex (width : ℕ) (f : List Char → Char → Atom) :
        Agree back false (fun cs => readHex extended width cs >>= fun p => .ok (f cs p.1, p.2))
          fun cs => readHex extended width cs >>= fun p => .ok (f cs p.1, p.2) :=
      (readHex_agree hback width).map f f
    have hall : Agree back (endsGroup c) (fun cs => readEscape extended (c :: cs))
        fun cs => readEscape extended (c :: cs) := by
      simp only [readEscape]
      apply Agree.ite (fun _ => .fail _ _); intro _
      apply Agree.ite (fun hc => ?hex); intro _
      apply Agree.ite (fun hc => ?unit); intro _
      apply Agree.ite (fun hc => ?long); intro _
      apply Agree.ite (fun hc => ?property); intro _
      iterate 11 apply Agree.ite (fun _ => .keep _ _); intro _
      apply Agree.ite (fun hc => ?boundary); intro _
      iterate 4 apply Agree.ite (fun _ => .keep _ _); intro _
      · exact .fail _ _
      case hex =>
        rw [hends hc (by decide)]
        exact hhex 2 fun cs ch => .literal ch ((skip extended cs).head? != some '{')
      case unit =>
        rw [hends hc (by decide)]
        exact hhex 4 fun _ ch => .literal ch false
      case long =>
        rw [hends hc (by decide)]
        exact hhex 8 fun _ ch => .literal ch false
      case property =>
        have hgroup : endsGroup c = false := by
          rcases Bool.or_eq_true_iff.1 hc with hc | hc
          · exact hends hc (by decide)
          · exact hends hc (by decide)
        rw [hgroup]
        intro cs cs' atom atom' rest rest' hcs h h'
        obtain ⟨⟨q, negated, mid⟩, hq, h⟩ := bind_eq_ok.1 h
        obtain ⟨⟨q', negated', mid'⟩, hq', h'⟩ := bind_eq_ok.1 h'
        obtain ⟨-, rfl⟩ := Prod.mk.inj (Except.ok.inj h)
        obtain ⟨-, rfl⟩ := Prod.mk.inj (Except.ok.inj h')
        exact readProperty_agree hback hcs hq hq'
      case boundary =>
        rw [hends hc (by decide)]
        exact (readBoundary_agree hback).map (fun _ => Atom.assertion) fun _ => Atom.assertion
    exact hall _ _ _ _ _ _ hrest h h'

/-! ## The start of a class -/

theorem leadingHyphens_renamed (extended : Bool) (hback : Closing back) {n m : ℕ}
    (hcs : Renamed back false cs cs')
    (hn : cs.length ≤ n) (hm : cs'.length ≤ m) :
    ((leadingHyphens extended m cs').1 = [] ↔ (leadingHyphens extended n cs).1 = []) ∧
      Renamed back false (leadingHyphens extended n cs).2 (leadingHyphens extended m cs').2 := by
  have hkeep : ∀ {k ds}, (∀ es, ds ≠ '-' :: es) → leadingHyphens extended k ds = ([], ds) := by
    intro k ds hds
    unfold leadingHyphens
    split
    · exact absurd rfl (hds _)
    · rfl
  induction n generalizing cs cs' m with
  | zero =>
    obtain rfl := List.eq_nil_of_length_eq_zero (Nat.le_zero.1 hn)
    rw [hkeep (hcs.ne_cons hback (by decide) (by simp)), hkeep (by simp)]
    exact ⟨Iff.rfl, hcs⟩
  | succ n ih =>
    by_cases hhyphen : ∃ ds, cs = '-' :: ds
    · obtain ⟨ds, rfl⟩ := hhyphen
      obtain ⟨ds', rfl, hds⟩ := hcs.exists_cons
      simp only [List.length_cons] at hn hm
      obtain ⟨m, rfl⟩ : ∃ k, m = k + 1 := ⟨m - 1, by omega⟩
      have hskip := length_skip_le extended ds
      have hskip' := length_skip_le extended ds'
      obtain ⟨-, hrest⟩ := ih (m := m) (hds.skip extended hback) (by omega) (by omega)
      rw [leadingHyphens, leadingHyphens]
      exact ⟨by simp, hrest⟩
    · rw [not_exists] at hhyphen
      rw [hkeep (hcs.ne_cons hback (by decide) hhyphen), hkeep hhyphen]
      exact ⟨Iff.rfl, hcs⟩

theorem readNegation_renamed (extended : Bool) (hback : Closing back)
    (hcs : Renamed back false cs cs') :
    Renamed back false (readNegation extended cs).2 (readNegation extended cs').2 := by
  have hkeep : ∀ {ds}, (∀ es, ds ≠ '^' :: es) → readNegation extended ds = (false, ds) := by
    intro ds hds
    unfold readNegation
    split
    · exact absurd rfl (hds _)
    · rfl
  by_cases hcaret : ∃ ds, cs = '^' :: ds
  · obtain ⟨ds, rfl⟩ := hcaret
    obtain ⟨ds', rfl, hds⟩ := hcs.exists_cons
    exact hds.skip extended hback
  · rw [not_exists] at hcaret
    rw [hkeep (hcs.ne_cons hback (by decide) hcaret), hkeep hcaret]
    exact hcs

theorem openClass_agree (hback : Closing back) {negated negated' : Bool}
    {items items' : List ClassExpr} (hcs : Renamed back false cs cs')
    (h : openClass extended cs = .ok (negated, items, rest))
    (h' : openClass extended cs' = .ok (negated', items', rest')) :
    Renamed back false rest rest' := by
  obtain ⟨hnil, hleft⟩ := leadingHyphens_renamed extended hback
    (readNegation_renamed extended hback (hcs.skip extended hback))
    (Nat.le_refl _) (Nat.le_refl _)
  simp only [openClass] at h h'
  generalize leadingHyphens extended _ _ = first at h hnil hleft
  generalize leadingHyphens extended _ _ = first' at h' hnil hleft
  obtain ⟨taken, left⟩ := first
  obtain ⟨taken', left'⟩ := first'
  dsimp only at hnil hleft
  split at h
  · simp at h
  · -- a bracket that comes first stands for itself
    rename_i ds heq
    obtain ⟨rfl, rfl⟩ := Prod.mk.inj heq
    obtain ⟨ds', rfl, hds⟩ := hleft.exists_cons
    obtain rfl := hnil.2 rfl
    have hskip : Renamed back false (skip extended ds) (skip extended ds') :=
      hds.skip extended hback
    simp only at h'
    split at h
    · simp at h
    · split at h'
      · simp at h'
      · simp only [Except.ok.injEq, Prod.mk.injEq] at h h'
        rwa [h.2.2, h'.2.2] at hskip
  · rename_i hend hbracket heq
    obtain ⟨rfl, rfl⟩ := Prod.mk.inj heq
    split at h'
    · simp at h'
    · rename_i heq'
      obtain ⟨rfl, rfl⟩ := Prod.mk.inj heq'
      obtain rfl := hnil.1 rfl
      exact absurd rfl (hleft.ne_cons hback (by decide) (fun ds => hbracket ds rfl) _)
    · rename_i heq'
      obtain ⟨rfl, rfl⟩ := Prod.mk.inj heq'
      simp only [Except.ok.injEq, Prod.mk.injEq] at h h'
      rwa [h.2.2, h'.2.2] at hleft

/-! ## Classes of ASCII characters by name -/

/-- Two optional readings, both of them there and equally far, or none. -/
def AgreeIfThere {α β : Type} (back : List Char) :
    Option (α × List Char) → Option (β × List Char) → Prop :=
  Option.Rel fun x x' => Renamed back true x.2 x'.2

/-- The characters before the colon that ends a name, as long as no group ends or begins. -/
def isNamePart (c : Char) : Bool :=
  c != ':' && c != ')' && c != '|' && c != '('

theorem ne_colon_of_mem_takeWhile (cs : List Char) :
    ∀ c ∈ cs.takeWhile isNamePart, (c != ':') = true := by
  intro c hc
  have hpart := List.mem_takeWhile_imp hc
  simp only [isNamePart, Bool.and_eq_true] at hpart
  exact hpart.1.1.1

/-- A name that a group ends or begins in is no name of a class. -/
theorem readAsciiName?_eq_none {negated : Bool} (h : ∀ ds, cs.dropWhile isNamePart ≠ ':' :: ds) :
    readAsciiName? negated cs = none := by
  have hsplit := List.takeWhile_append_dropWhile (p := isNamePart) (l := cs)
  have hpart := ne_colon_of_mem_takeWhile cs
  unfold readAsciiName?
  cases hdrop : cs.dropWhile isNamePart with
  | nil =>
    rw [hdrop, List.append_nil] at hsplit
    have hnil : cs.dropWhile (· != ':') = [] := by
      rw [List.dropWhile_eq_nil_iff]
      rw [← hsplit]
      exact hpart
    rw [hnil]
  | cons d ds =>
    have hd : isNamePart d = false := by
      have hhead := List.head?_dropWhile_not isNamePart cs
      rw [hdrop] at hhead
      simpa using hhead
    have hcolon : d ≠ ':' := by
      rintro rfl
      exact h ds hdrop
    have hmark : d ∈ [')', '|', '('] := by
      simp only [isNamePart, Bool.and_eq_false_iff, bne_eq_false_iff_eq] at hd
      simp only [List.mem_cons, List.not_mem_nil, or_false]
      grind
    have hmem : d ∈ cs.takeWhile (· != ':') := by
      rw [← hsplit, hdrop, List.takeWhile_append_of_pos hpart,
        List.takeWhile_cons_of_pos (by simpa using hcolon)]
      simp
    split
    · rw [lookup_asciiClassNames hmark hmem, Option.map_none]
    · rfl

/-- The name in front of a colon is one if a closing bracket follows. -/
theorem readAsciiName?_of_colon {negated : Bool} (h : cs.dropWhile isNamePart = ':' :: ds) :
    readAsciiName? negated cs =
      match ds with
      | ']' :: rest =>
        (asciiClassNames.lookup (String.ofList (cs.takeWhile isNamePart))).map fun k =>
          (.ascii k negated, rest)
      | _ => none := by
  have hsplit : cs.takeWhile isNamePart ++ ':' :: ds = cs := by
    rw [← h, List.takeWhile_append_dropWhile]
  have hstop : ∀ c ∈ (':' :: ds).head?, (c != ':') = false := by simp
  have htake := Text.takeWhile_append_stop (ne_colon_of_mem_takeWhile cs) hstop
  have hdrop := Text.dropWhile_append_stop (ne_colon_of_mem_takeWhile cs) hstop
  rw [hsplit] at htake hdrop
  rw [readAsciiName?, htake, hdrop]
  split
  · rename_i heq
    obtain ⟨-, rfl⟩ := List.cons.inj heq
    rfl
  · rename_i hnone
    split
    · exact absurd rfl (hnone _)
    · rfl

theorem readAsciiName?_agree (hback : Closing back) (negated : Bool)
    (hcs : Renamed back false cs cs') :
    AgreeIfThere back (readAsciiName? negated cs) (readAsciiName? negated cs') := by
  have hpart : StaysInside isNamePart := by decide
  obtain ⟨htake, hdrop⟩ := hcs.span hback hpart
  by_cases hcolon : ∃ ds, cs.dropWhile isNamePart = ':' :: ds
  · obtain ⟨ds, hds⟩ := hcolon
    rw [hds] at hdrop
    obtain ⟨ds', hds', hrest⟩ := hdrop.exists_cons
    rw [readAsciiName?_of_colon hds, readAsciiName?_of_colon hds', htake]
    by_cases hbracket : ∃ es, ds = ']' :: es
    · obtain ⟨es, rfl⟩ := hbracket
      obtain ⟨es', rfl, hes⟩ := hrest.exists_cons
      cases asciiClassNames.lookup _ with
      | none => exact .none
      | some k => exact .some hes.anywhere
    · rw [not_exists] at hbracket
      have hbracket' := hrest.ne_cons hback (by decide) hbracket
      split
      · exact absurd rfl (hbracket _)
      · split
        · exact absurd rfl (hbracket' _)
        · exact .none
  · rw [not_exists] at hcolon
    rw [readAsciiName?_eq_none hcolon,
      readAsciiName?_eq_none (hdrop.ne_cons hback (by decide) hcolon)]
    exact .none

theorem readAsciiClass?_agree (hback : Closing back) (hcs : Renamed back false cs cs') :
    AgreeIfThere back (readAsciiClass? cs) (readAsciiClass? cs') := by
  by_cases hcolon : ∃ ds, cs = ':' :: ds
  · obtain ⟨ds, rfl⟩ := hcolon
    obtain ⟨ds', rfl, hds⟩ := hcs.exists_cons
    by_cases hcaret : ∃ es, ds = '^' :: es
    · obtain ⟨es, rfl⟩ := hcaret
      obtain ⟨es', rfl, hes⟩ := hds.exists_cons
      exact readAsciiName?_agree hback true hes
    · rw [not_exists] at hcaret
      rw [readAsciiClass?_colon hcaret,
        readAsciiClass?_colon (hds.ne_cons hback (by decide) hcaret)]
      exact readAsciiName?_agree hback false hds
  · rw [not_exists] at hcolon
    rw [readAsciiClass?_eq_none hcolon,
      readAsciiClass?_eq_none (hcs.ne_cons hback (by decide) hcolon)]
    exact .none

/-! ## Items -/

theorem readClassAtom_literal (hc : c ≠ '\\') (cs : List Char) :
    readClassAtom extended (c :: cs) = .ok (.literal c false, cs) := by
  unfold readClassAtom
  split
  · rename_i heq
    simp at heq
  · rename_i heq
    exact (hc (List.cons.inj heq).1).elim
  · rename_i heq
    obtain ⟨rfl, rfl⟩ := List.cons.inj heq
    rfl

theorem readClassAtom_agree (hback : Closing back) :
    Agree back false (readClassAtom extended) (readClassAtom extended) := by
  intro cs cs' atom atom' rest rest' hcs h h'
  cases cs with
  | nil => simp [readClassAtom] at h
  | cons c cs =>
    obtain ⟨cs', rfl, hrest⟩ := hcs.exists_cons
    by_cases hc : c = '\\'
    · subst hc
      exact readEscape_agree hback _ _ _ _ _ _ hrest h h'
    · rw [readClassAtom_literal hc] at h h'
      obtain ⟨-, rfl⟩ := Prod.mk.inj (Except.ok.inj h)
      obtain ⟨-, rfl⟩ := Prod.mk.inj (Except.ok.inj h')
      exact hrest.anywhere

theorem afterHyphen?_renamed (hback : Closing back) (hcs : Renamed back false cs cs')
    (h : afterHyphen? extended cs = some c) : afterHyphen? extended cs' = some c := by
  have hblank : StaysInside Text.isBlank := by decide
  have hhead : ∀ {ds ds'}, Renamed back false ds ds' → ds.head? = some c → ds'.head? = some c := by
    intro ds ds' hds hc
    obtain ⟨es, rfl⟩ := List.head?_eq_some_iff.1 hc
    obtain ⟨es', rfl, -⟩ := hds.exists_cons
    rfl
  unfold afterHyphen? at h ⊢
  split at h
  · rename_i hextended
    rw [if_pos hextended]
    have hdrop := (hcs.span hback hblank).2
    split at h
    · rename_i ds hmark
      rw [hmark] at hdrop
      obtain ⟨ds', hds', hrest⟩ := hdrop.exists_cons
      rw [hds']
      exact hhead (Renamed.span hback hblank hrest).2 h
    · rename_i hmark
      split
      · rename_i heq
        exact absurd heq (hdrop.ne_cons hback (by decide) hmark _)
      · exact hhead hdrop h
  · rename_i hextended
    rw [if_neg hextended]
    exact hhead hcs h

theorem readRange_agree (hback : Closing back) (first first' : Atom) :
    Agree back false (readRange extended first) (readRange extended first') := by
  have hrest : ∀ {first cs item rest}, readRange extended first cs = .ok (item, rest) →
      ∃ last, readClassAtom extended (skip extended cs) = .ok (last, rest) := by
    intro first cs item rest h
    obtain ⟨⟨last, mid⟩, hlast, h⟩ := bind_eq_ok.1 h
    obtain ⟨lo, -, h⟩ := bind_eq_ok.1 h
    obtain ⟨hi, -, h⟩ := bind_eq_ok.1 h
    split at h
    · obtain ⟨-, rfl⟩ := Prod.mk.inj (Except.ok.inj h)
      exact ⟨last, hlast⟩
    · simp at h
  intro cs cs' item item' rest rest' hcs h h'
  obtain ⟨last, hlast⟩ := hrest h
  obtain ⟨last', hlast'⟩ := hrest h'
  exact readClassAtom_agree hback _ _ _ _ _ _ (hcs.skip extended hback) hlast hlast'

theorem rest_of_readItemFrom {first : Atom} {item : ClassExpr}
    (h : readItemFrom extended first cs = .ok (item, rest))
    (hcs : ∀ ds, skip extended cs ≠ '-' :: ds) : rest = skip extended cs := by
  unfold readItemFrom at h
  split at h
  · simp at h
  · rename_i heq
    exact absurd heq (hcs _)
  · obtain ⟨item', -, h⟩ := bind_eq_ok.1 h
    exact (Prod.mk.inj (Except.ok.inj h)).2.symm

/-- A hyphen ends an item, if no end of a range follows. -/
theorem rest_of_readItemFrom_hyphen {first : Atom} {item : ClassExpr}
    (hcs : skip extended cs = '-' :: ds) (h : readItemFrom extended first cs = .ok (item, rest)) :
    ∃ c, afterHyphen? extended ds = some c ∧
      if c = ']' ∨ c = '-' then rest = '-' :: ds
      else readRange extended first ds = .ok (item, rest) := by
  simp only [readItemFrom, hcs] at h
  cases hnext : afterHyphen? extended ds with
  | none =>
    have hread : readRange extended first ds = .error .unclosedClass := by
      rw [readRange, skip_of_afterHyphen? hnext]
      rfl
    rw [hnext, hread] at h
    simp at h
  | some c =>
    refine ⟨c, rfl, ?_⟩
    have hstop : (some c == some ']' || some c == some '-') ↔ c = ']' ∨ c = '-' := by simp
    rw [hnext] at h
    split at h
    · rename_i heq
      rw [if_pos (hstop.1 heq)]
      obtain ⟨item', -, h⟩ := bind_eq_ok.1 h
      exact (Prod.mk.inj (Except.ok.inj h)).2.symm
    · rename_i heq
      rw [if_neg (mt hstop.2 heq)]
      exact h

theorem readItemFrom_agree (hback : Closing back) (first first' : Atom) :
    Agree back true (readItemFrom extended first) (readItemFrom extended first') := by
  intro cs cs' item item' rest rest' hcs h h'
  have hskip : Renamed back true (skip extended cs) (skip extended cs') := hcs.skip extended hback
  by_cases hhyphen : ∃ ds, skip extended cs = '-' :: ds
  · obtain ⟨ds, hds⟩ := hhyphen
    rw [hds] at hskip
    generalize hds' : skip extended cs' = left at hskip
    cases hskip with
    | char hrest =>
      obtain ⟨c, hnext, hread⟩ := rest_of_readItemFrom_hyphen hds h
      obtain ⟨c', hnext', hread'⟩ := rest_of_readItemFrom_hyphen hds' h'
      rw [afterHyphen?_renamed hback hrest hnext] at hnext'
      obtain rfl := Option.some.inj hnext'
      split at hread
      · rename_i hstop
        rw [if_pos hstop] at hread'
        rw [hread, hread']
        exact .char hrest
      · rename_i hstop
        rw [if_neg hstop] at hread'
        exact readRange_agree hback first first' _ _ _ _ _ _ hrest hread hread'
  · rw [not_exists] at hhyphen
    rw [rest_of_readItemFrom h hhyphen,
      rest_of_readItemFrom h' (hskip.ne_cons hback (by decide) hhyphen)]
    exact hskip

theorem readClassItem_agree (hback : Closing back) :
    Agree back false (readClassItem extended) (readClassItem extended) :=
  (readClassAtom_agree hback).bind fun first first' => readItemFrom_agree hback first first'

/-! ## Rows of items -/

/-- Only two equal characters are an operation. -/
theorem setOp?_eq_none (h : c ∈ ['&', '-', '~'] → ∀ ds, cs ≠ c :: ds) :
    setOp? (c :: cs) = none := by
  unfold setOp?
  split
  case h_4 => rfl
  all_goals
    rename_i heq
    obtain ⟨rfl, rfl⟩ := List.cons.inj heq
    exact absurd rfl (h (by decide) _)

theorem setOp?_agree (hcs : Renamed back (endsGroup c) cs cs') (hback : Closing back) :
    AgreeIfThere back (setOp? (c :: cs)) (setOp? (c :: cs')) := by
  by_cases hop : c ∈ ['&', '-', '~'] ∧ ∃ es, cs = c :: es
  · obtain ⟨hc, es, rfl⟩ := hop
    have hmarks : ∀ c ∈ ['&', '-', '~'], endsGroup c = false :=
      List.all_iff_forall_prop.1 (by decide)
    rw [hmarks c hc] at hcs
    obtain ⟨es', rfl, hes⟩ := hcs.exists_cons
    simp only [List.mem_cons, List.not_mem_nil, or_false] at hc
    rcases hc with rfl | rfl | rfl <;> exact .some hes.anywhere
  · rw [not_and, not_exists] at hop
    have hparen : c ∈ ['&', '-', '~'] → c ≠ ')' := by
      rintro hc rfl
      exact absurd hc (by decide)
    rw [setOp?_eq_none hop, setOp?_eq_none fun hc => hcs.ne_cons hback (hparen hc) (hop hc)]
    exact .none

/-- The same brackets and operations wait for more of a class, whatever they hold. -/
inductive SameFrames : List ClassFrame → List ClassFrame → Prop
  | nil : SameFrames [] []
  | opened {before before' : List ClassExpr} {negated negated' : Bool}
    {frames frames' : List ClassFrame} (rest : SameFrames frames frames') :
    SameFrames (.opened before negated :: frames) (.opened before' negated' :: frames')
  | operation {op op' : SetOp} {left left' : ClassExpr} {frames frames' : List ClassFrame}
    (rest : SameFrames frames frames') :
    SameFrames (.operation op left :: frames) (.operation op' left' :: frames')

theorem SameFrames.closeOperation {frames frames' : List ClassFrame}
    (h : SameFrames frames frames') (right right' : ClassExpr) :
    SameFrames (closeOperation right frames).2 (closeOperation right' frames').2 := by
  cases h with
  | nil => exact .nil
  | opened hrest => exact .opened hrest
  | operation hrest => exact hrest

/-- What closing a bracket comes to: the end of the class, or its outer row of items. -/
theorem readClassFor_close {n : ℕ} {frames : List ClassFrame} {items : List ClassExpr}
    {x : ClassExpr × List Char}
    (h : readClassFor extended (n + 1) frames items (']' :: cs) = .ok x) :
    ∃ before negated frames', (closeOperation (ClassExpr.ofItems items.reverse) frames).2 =
        .opened before negated :: frames' ∧
      ((frames' = [] ∧ x.2 = cs) ∨
        frames' ≠ [] ∧ ∃ items', readClassFor extended n frames' items' cs = .ok x) := by
  have hskip : skip extended (']' :: cs) = ']' :: cs := by
    cases extended <;> rfl
  simp only [readClassFor, hskip] at h
  split at h
  · rename_i heq
    refine ⟨_, _, _, congrArg Prod.snd heq, .inl ⟨rfl, ?_⟩⟩
    rw [← Except.ok.inj h]
  · rename_i hne heq
    exact ⟨_, _, _, congrArg Prod.snd heq, .inr ⟨fun hnil => hne hnil, _, h⟩⟩
  · simp at h

/-- What opening a bracket comes to: a class by name, or a new row of items. -/
theorem readClassFor_open {n : ℕ} {frames : List ClassFrame} {items : List ClassExpr}
    {x : ClassExpr × List Char}
    (h : readClassFor extended (n + 1) frames items ('[' :: cs) = .ok x) :
    (∃ item left, readAsciiClass? cs = some (item, left) ∧
      readClassFor extended n frames (item :: items) left = .ok x) ∨
    (readAsciiClass? cs = none ∧ ∃ negated first left,
      openClass extended cs = .ok (negated, first, left) ∧
        readClassFor extended n (.opened items negated :: frames) first left = .ok x) := by
  have hskip : skip extended ('[' :: cs) = '[' :: cs := by
    cases extended <;> rfl
  simp only [readClassFor, hskip] at h
  split at h
  · rename_i item left hname
    exact .inl ⟨item, left, hname, h⟩
  · rename_i hname
    obtain ⟨⟨negated, first, left⟩, hopen, h⟩ := bind_eq_ok.1 h
    exact .inr ⟨hname, negated, first, left, hopen, h⟩

/-- What any other character comes to: an operation, or one more item. -/
theorem readClassFor_item {n : ℕ} {frames : List ClassFrame} {items : List ClassExpr}
    {x : ClassExpr × List Char} (hskip : skip extended (c :: cs) = c :: cs) (hclose : c ≠ ']')
    (hopen : c ≠ '[') (h : readClassFor extended (n + 1) frames items (c :: cs) = .ok x) :
    (∃ op left right, setOp? (c :: cs) = some (op, left) ∧
      readClassFor extended n (.operation op right ::
        (closeOperation (ClassExpr.ofItems items.reverse) frames).2) [] left = .ok x) ∨
    (setOp? (c :: cs) = none ∧ ∃ item left, readClassItem extended (c :: cs) = .ok (item, left) ∧
      readClassFor extended n frames (item :: items) left = .ok x) := by
  rw [readClassFor, hskip] at h
  split at h
  · rename_i heq
    simp at heq
  · rename_i heq
    exact absurd (List.cons.inj heq).1 hclose
  · rename_i heq
    exact absurd (List.cons.inj heq).1 hopen
  · split at h
    · rename_i op left hop
      exact .inl ⟨op, left, _, hop, h⟩
    · rename_i hop
      obtain ⟨⟨item, left⟩, hitem, h⟩ := bind_eq_ok.1 h
      exact .inr ⟨hop, item, left, hitem, h⟩

/-- A character that stands for itself begins an item. -/
theorem readClassFor_inert (hc : Inert c) {n : ℕ} {frames : List ClassFrame}
    {items : List ClassExpr} {x : ClassExpr × List Char}
    (h : readClassFor extended (n + 1) frames items (c :: cs) = .ok x) :
    ∃ item left, readItemFrom extended (.literal c false) cs = .ok (item, left) ∧
      readClassFor extended n frames (item :: items) left = .ok x := by
  have hop : setOp? (c :: cs) = none := by
    have hmarks : ∀ d ∈ ['&', '-', '~'], ¬Inert d :=
      List.all_iff_forall_prop.1 (by decide)
    exact setOp?_eq_none fun hmark => absurd hc (hmarks c hmark)
  rcases readClassFor_item (hc.skip_cons cs) (hc.ne (by decide)) (hc.ne (by decide)) h with
    ⟨_, _, _, hop', -⟩ | ⟨-, item, left, hitem, hx⟩
  · rw [hop] at hop'
    simp at hop'
  · rw [readClassItem, readClassAtom_literal (hc.ne (by decide))] at hitem
    exact ⟨item, left, hitem, hx⟩

/-- Characters that stand for themselves are items of their own, up to the last one. -/
theorem readClassFor_inert_row {row : List Char} {n : ℕ} {frames : List ClassFrame}
    {items : List ClassExpr} {x : ClassExpr × List Char} (hrow : ∀ c ∈ row, Inert c)
    (hd : Inert d) (h : readClassFor extended n frames items (row ++ d :: cs) = .ok x) :
    ∃ m items', m ≤ n ∧ readClassFor extended m frames items' (d :: cs) = .ok x := by
  induction row generalizing n items with
  | nil => exact ⟨n, items, Nat.le_refl n, h⟩
  | cons c row ih =>
    obtain ⟨hc, hrow⟩ := List.forall_mem_cons.1 hrow
    cases n with
    | zero => simp [readClassFor] at h
    | succ n =>
      obtain ⟨e, es, he, hes⟩ : ∃ e es, row ++ d :: cs = e :: es ∧ Inert e := by
        cases row with
        | nil => exact ⟨d, cs, rfl, hd⟩
        | cons e row => exact ⟨e, _, rfl, hrow e List.mem_cons_self⟩
      rw [List.cons_append, he] at h
      obtain ⟨item, left, hitem, hread⟩ := readClassFor_inert hc h
      have hskip : skip extended (e :: es) = e :: es := hes.skip_cons es
      have hleft := rest_of_readItemFrom hitem fun ds heq =>
        hes.ne (by decide) (List.cons.inj (hskip.symm.trans heq)).1
      rw [hleft, hskip, ← he] at hread
      obtain ⟨m, items', hm, hread⟩ := ih hrow hread
      exact ⟨m, items', by omega, hread⟩

theorem readClassFor_skip (n : ℕ) (frames : List ClassFrame) (items : List ClassExpr)
    (cs : List Char) : readClassFor extended n frames items (skip extended cs) =
      readClassFor extended n frames items cs := by
  cases n with
  | zero => rfl
  | succ n =>
    simp only [readClassFor]
    rw [skip_idem]

/-! ## Two readers of classes -/

/-- Both readers are at the end of the class, or go on with the same brackets and operations. -/
def GoOn (back : List Char) (extended : Bool) (n m : ℕ) (x x' : ClassExpr × List Char) : Prop :=
  Renamed back true x.2 x'.2 ∨ ∃ frames frames' items items' left left',
    SameFrames frames frames' ∧ Renamed back true left left' ∧
      readClassFor extended n frames items left = .ok x ∧
        readClassFor extended m frames' items' left' = .ok x'

section

variable {n m : ℕ} {frames frames' : List ClassFrame} {items items' : List ClassExpr}
  {x x' : ClassExpr × List Char}

theorem goOn_close (hframes : SameFrames frames frames') (hcs : Renamed back true cs cs')
    (h : readClassFor extended (n + 1) frames items (']' :: cs) = .ok x)
    (h' : readClassFor extended (m + 1) frames' items' (']' :: cs') = .ok x') :
    GoOn back extended n m x x' := by
  obtain ⟨before, negated, rest, hwait, hx⟩ := readClassFor_close h
  obtain ⟨before', negated', rest', hwait', hx'⟩ := readClassFor_close h'
  have hsame := hframes.closeOperation (ClassExpr.ofItems items.reverse)
    (ClassExpr.ofItems items'.reverse)
  rw [hwait, hwait'] at hsame
  cases hsame with
  | opened hrest =>
    rcases hx with ⟨rfl, hx⟩ | ⟨hne, items₁, hx⟩
    · cases hrest
      rcases hx' with ⟨-, hx'⟩ | ⟨hne, -⟩
      · left
        rwa [hx, hx']
      · exact absurd rfl hne
    · rcases hx' with ⟨rfl, -⟩ | ⟨-, items₁', hx'⟩
      · cases hrest
        exact absurd rfl hne
      · exact .inr ⟨_, _, _, _, _, _, hrest, hcs, hx, hx'⟩

theorem goOn_open (hback : Closing back) (hframes : SameFrames frames frames')
    (hcs : Renamed back false cs cs')
    (h : readClassFor extended (n + 1) frames items ('[' :: cs) = .ok x)
    (h' : readClassFor extended (m + 1) frames' items' ('[' :: cs') = .ok x') :
    GoOn back extended n m x x' := by
  have hnames := readAsciiClass?_agree hback hcs
  rcases readClassFor_open h with ⟨item, left, hname, hx⟩ | ⟨hname, negated, first, left, hopen, hx⟩
  · rcases readClassFor_open h' with ⟨item', left', hname', hx'⟩ | ⟨hname', -⟩
    · rw [hname, hname'] at hnames
      cases hnames with
      | some hleft => exact .inr ⟨_, _, _, _, _, _, hframes, hleft, hx, hx'⟩
    · rw [hname, hname'] at hnames
      cases hnames
  · rcases readClassFor_open h' with ⟨item', left', hname', -⟩ | ⟨-, negated', first', left',
      hopen', hx'⟩
    · rw [hname, hname'] at hnames
      cases hnames
    · have hleft := openClass_agree hback hcs hopen hopen'
      exact .inr ⟨_, _, _, _, _, _, .opened hframes, hleft.anywhere, hx, hx'⟩

theorem goOn_item (hback : Closing back) (hframes : SameFrames frames frames')
    (hcs : Renamed back (endsGroup c) cs cs') (hskip : skip extended (c :: cs) = c :: cs)
    (hskip' : skip extended (c :: cs') = c :: cs') (hclose : c ≠ ']') (hopen : c ≠ '[')
    (h : readClassFor extended (n + 1) frames items (c :: cs) = .ok x)
    (h' : readClassFor extended (m + 1) frames' items' (c :: cs') = .ok x') :
    GoOn back extended n m x x' := by
  have hops := setOp?_agree hcs hback
  rcases readClassFor_item hskip hclose hopen h with ⟨op, left, right, hop, hx⟩ | ⟨hop, item, left,
    hitem, hx⟩
  · rcases readClassFor_item hskip' hclose hopen h' with ⟨op', left', right', hop', hx'⟩ | ⟨hop', -⟩
    · rw [hop, hop'] at hops
      cases hops with
      | some hleft =>
        exact .inr ⟨_, _, _, _, _, _, .operation (hframes.closeOperation _ _), hleft, hx, hx'⟩
    · rw [hop, hop'] at hops
      cases hops
  · rcases readClassFor_item hskip' hclose hopen h' with ⟨op', left', right', hop', -⟩ | ⟨-, item',
      left', hitem', hx'⟩
    · rw [hop, hop'] at hops
      cases hops
    · have hleft := readClassItem_agree hback _ _ _ _ _ _ (.char hcs) hitem hitem'
      exact .inr ⟨_, _, _, _, _, _, hframes, hleft, hx, hx'⟩

/-- A group that begins in a class is a number of items there, and its last character may begin a
range. -/
theorem goOn_group (hback : Closing back) (hframes : SameFrames frames frames') {name : List Char}
    (hname : ∀ c ∈ name, Inert c) (hcs : Renamed back false cs cs')
    (h : readClassFor extended (n + 1) frames items ('(' :: '?' :: ':' :: cs) = .ok x)
    (h' : readClassFor extended (m + 1) frames' items'
      ('(' :: '?' :: 'P' :: '<' :: (name ++ '>' :: cs')) = .ok x') :
    ∃ n' m', n' < n + 1 ∧ GoOn back extended n' m' x x' := by
  have hplain : ∀ c ∈ ['(', '?'], Inert c := fun c hc => inert_plain c (by simp at hc ⊢; grind)
  have hnamed : ∀ c ∈ '(' :: '?' :: 'P' :: '<' :: name, Inert c := fun c hc =>
    inert_named hname c (by simp at hc ⊢; grind)
  have hcolon : Inert ':' := inert_plain _ (by simp)
  have hangle : Inert '>' := inert_named hname _ (by simp)
  obtain ⟨k, items₁, hk, hx⟩ := readClassFor_inert_row hplain hcolon h
  obtain ⟨k', items₁', -, hx'⟩ := readClassFor_inert_row hnamed hangle h'
  cases k with
  | zero => simp [readClassFor] at hx
  | succ k =>
    cases k' with
    | zero => simp [readClassFor] at hx'
    | succ k' =>
      obtain ⟨item, left, hitem, hx⟩ := readClassFor_inert hcolon hx
      obtain ⟨item', left', hitem', hx'⟩ := readClassFor_inert hangle hx'
      have hleft := readItemFrom_agree hback _ _ _ _ _ _ _ _ hcs.anywhere hitem hitem'
      exact ⟨k, k', by omega, .inr ⟨_, _, _, _, _, _, hframes, hleft, hx, hx'⟩⟩

end

theorem readClassFor_agree (hback : Closing back) {n m : ℕ} {frames frames' : List ClassFrame}
    (hframes : SameFrames frames frames') {items items' : List ClassExpr}
    (hcs : Renamed back b cs cs') {x x' : ClassExpr × List Char}
    (h : readClassFor extended n frames items cs = .ok x)
    (h' : readClassFor extended m frames' items' cs' = .ok x') : Renamed back true x.2 x'.2 := by
  induction n using Nat.strongRecOn generalizing m frames frames' items items' b cs cs' with
  | ind n ih =>
    have hgo : ∀ {n' m'}, n' < n → GoOn back extended n' m' x x' → Renamed back true x.2 x'.2 := by
      rintro n' m' hn' (hend | ⟨_, _, _, _, _, _, hframes, hleft, hx, hx'⟩)
      · exact hend
      · exact ih n' hn' hframes hleft hx hx'
    have hleft : Renamed back b (skip extended cs) (skip extended cs') := hcs.skip extended hback
    have hidem := skip_idem extended cs
    have hidem' := skip_idem extended cs'
    rw [← readClassFor_skip] at h h'
    generalize skip extended cs = left at h hleft hidem
    generalize skip extended cs' = left' at h' hleft hidem'
    cases n with
    | zero => simp [readClassFor] at h
    | succ n =>
      cases m with
      | zero => simp [readClassFor] at h'
      | succ m =>
        cases hleft with
        | done | taken =>
          rw [readClassFor, hidem] at h
          simp at h
        | @char _ d ds ds' hds =>
          have hnext : GoOn back extended n m x x' := by
            by_cases hclose : d = ']'
            · subst hclose
              exact goOn_close hframes hds.anywhere h h'
            · by_cases hopen : d = '['
              · subst hopen
                exact goOn_open hback hframes hds h h'
              · exact goOn_item hback hframes hds hidem hidem' hclose hopen h h'
          exact hgo (Nat.lt_succ_self n) hnext
        | group hinert _ hds =>
          obtain ⟨n', m', hn', hnext⟩ := goOn_group hback hframes hinert hds h h'
          exact hgo hn' hnext

theorem readClass_agree (hback : Closing back) :
    Agree back false (readClass extended) (readClass extended) := by
  intro cs cs' c c' rest rest' hcs h h'
  obtain ⟨⟨negated, items, left⟩, hopen, hread⟩ := bind_eq_ok.1 h
  obtain ⟨⟨negated', items', left'⟩, hopen', hread'⟩ := bind_eq_ok.1 h'
  have hleft := openClass_agree hback hcs hopen hopen'
  exact readClassFor_agree hback (.opened .nil) hleft hread hread'

end PatternGrammar.Regex.Reader
