import PatternGrammar.Proofs.Regex.Assembly
import PatternGrammar.Proofs.Regex.Reader.Token
import PatternGrammar.Proofs.Regex.Renaming.Class

/-!
# Tokens in groups that are given names

A part of a pattern is read as far with names for the groups as without them, and does the same to
the depth of groups and to the meaning of blanks (`Reader.readToken_agree`). An opening parenthesis
that is no beginning of a group of a component means the same in both texts.
-/

namespace PatternGrammar.Regex.Reader

variable {back cs cs' ds rest rest' : List Char} {b extended : Bool} {c : Char}

/-! ## Opening parentheses -/

/-- A function that reads the same of both texts, where it can read the first one. -/
def Keeps {α : Type} (back : List Char) (read : List Char → Except Error (α × List Char)) : Prop :=
  ∀ cs cs' x rest, Renamed back false cs cs' → read cs = .ok (x, rest) →
    ∃ rest', read cs' = .ok (x, rest') ∧ Renamed back true rest rest'

/-- What ends no group and begins none stands in both texts. -/
theorem Renamed.exists_append {front : List Char} (hfront : ∀ c ∈ front, endsGroup c = false)
    (h : Renamed back false (front ++ cs) cs') :
    ∃ ds, cs' = front ++ ds ∧ Renamed back false cs ds := by
  induction front generalizing cs' with
  | nil => exact ⟨cs', rfl, h⟩
  | cons c front ih =>
    obtain ⟨hc, hfront⟩ := List.forall_mem_cons.1 hfront
    obtain ⟨ds, rfl, hrest⟩ := h.exists_cons
    rw [hc] at hrest
    obtain ⟨es, rfl, hes⟩ := ih hfront hrest
    exact ⟨es, rfl, hes⟩

theorem endsGroup_of_flag? {f : Flag} (h : flag? c = some f) : endsGroup c = false := by
  have hparen : c ≠ ')' := by
    rintro rfl
    simp [flag?] at h
  have hbar : c ≠ '|' := by
    rintro rfl
    simp [flag?] at h
  simp [endsGroup, hparen, hbar]

theorem readFlagsFor_renamed (value dangling : Bool) (seen : List (Flag × Bool))
    {changes : List (Flag × Bool)} (hcs : Renamed back false cs cs')
    (h : readFlagsFor value dangling seen cs = .ok (changes, rest)) :
    ∃ rest', readFlagsFor value dangling seen cs' = .ok (changes, rest') ∧
      Renamed back false rest rest' := by
  induction cs generalizing value dangling seen cs' with
  | nil => simp [readFlagsFor] at h
  | cons c cs ih =>
    obtain ⟨ds, rfl, hrest⟩ := hcs.exists_cons
    rw [readFlagsFor] at h ⊢
    split at h
    · rename_i hend
      rw [if_pos hend]
      split at h
      · simp at h
      · rename_i hdangling
        obtain ⟨rfl, rfl⟩ := Prod.mk.inj (Except.ok.inj h)
        exact ⟨_, if_neg hdangling, hcs⟩
    · rename_i hend
      rw [if_neg hend]
      split at h
      · rename_i hhyphen
        rw [if_pos hhyphen]
        rw [eq_of_beq hhyphen] at hrest
        split at h
        · rename_i hvalue
          rw [if_pos hvalue]
          exact ih _ _ _ hrest h
        · simp at h
      · rename_i hhyphen
        rw [if_neg hhyphen]
        split at h
        · simp at h
        · rename_i hflag
          rw [endsGroup_of_flag? hflag] at hrest
          split at h
          · simp at h
          · rename_i hseen
            rw [if_neg hseen]
            exact ih _ _ _ hrest h

/-- What flags begin does not depend on what follows their end. -/
theorem openingOfFlags_cons {changes : List (Flag × Bool)} {opening : Opening}
    (h : openingOfFlags changes (c :: cs) = .ok (opening, rest)) (ds : List Char) :
    openingOfFlags changes (c :: ds) = .ok (opening, ds) ∧ rest = cs := by
  by_cases hc : c = ':'
  · subst hc
    obtain ⟨rfl, rfl⟩ := Prod.mk.inj (Except.ok.inj h)
    exact ⟨rfl, rfl⟩
  · have hother : ∀ cs, openingOfFlags changes (c :: cs) =
        if changes.isEmpty then .error .missingOperand else .ok (.directive changes, cs) := by
      intro cs
      unfold openingOfFlags
      split
      · rename_i heq
        simp at heq
      · rename_i heq
        exact (hc (List.cons.inj heq).1).elim
      · rename_i heq
        rw [(List.cons.inj heq).2]
    rw [hother] at h ⊢
    split at h
    · simp at h
    · rename_i hchanges
      obtain ⟨rfl, rfl⟩ := Prod.mk.inj (Except.ok.inj h)
      exact ⟨if_neg hchanges, rfl⟩

theorem readFlags_keeps : Keeps back readFlags := by
  intro cs cs' opening rest hcs h
  obtain ⟨⟨changes, mid⟩, hchanges, h⟩ := bind_eq_ok.1 h
  obtain ⟨mid', hchanges', hmid⟩ := readFlagsFor_renamed _ _ _ hcs hchanges
  cases mid with
  | nil => simp [openingOfFlags] at h
  | cons c mid =>
    obtain ⟨ds, rfl, hds⟩ := hmid.exists_cons
    obtain ⟨hopening, rfl⟩ := openingOfFlags_cons h ds
    exact ⟨ds, bind_eq_ok.2 ⟨_, hchanges', hopening⟩, hds.anywhere⟩

theorem readGroupName_keeps : Keeps back readGroupName := by
  have hchar : ∀ first c, isGroupNameChar first c → endsGroup c = false := by
    intro first c hc
    have hparen : c ≠ ')' := by
      rintro rfl
      cases first <;> exact absurd hc (by decide)
    have hbar : c ≠ '|' := by
      rintro rfl
      cases first <;> exact absurd hc (by decide)
    simp [endsGroup, hparen, hbar]
  intro cs cs' name rest hcs h
  have hsplit := List.takeWhile_append_dropWhile (p := (· != '>')) (l := cs)
  have hname : ∀ c ∈ cs.takeWhile (· != '>'), (c != '>') = true := fun c hc =>
    List.mem_takeWhile_imp (p := (· != '>')) hc
  have hhead := List.head?_dropWhile_not (· != '>') cs
  unfold readGroupName at h
  dsimp only at h
  split at h
  · rename_i mark left c row hdrop htake
    split at h
    · rename_i hvalid
      obtain ⟨rfl, rfl⟩ := Prod.mk.inj (Except.ok.inj h)
      rw [Bool.and_eq_true, List.all_eq_true] at hvalid
      rw [hdrop, htake] at hsplit
      rw [htake] at hname
      rw [hdrop] at hhead
      obtain rfl : mark = '>' := by simpa using hhead
      rw [← hsplit] at hcs
      have hfront : ∀ d ∈ c :: row, endsGroup d = false :=
        List.forall_mem_cons.2 ⟨hchar _ _ hvalid.1, fun d hd => hchar _ _ (hvalid.2 d hd)⟩
      obtain ⟨ds, rfl, hds⟩ := hcs.exists_append hfront
      obtain ⟨es, rfl, hes⟩ := Renamed.exists_cons hds
      refine ⟨es, ?_, hes.anywhere⟩
      rw [readGroupName, Text.takeWhile_append_stop hname (by simp),
        Text.dropWhile_append_stop hname (by simp)]
      exact if_pos (Bool.and_eq_true _ _ ▸ ⟨hvalid.1, List.all_eq_true.2 hvalid.2⟩)
    · simp at h
  · simp at h

theorem readNamed_keeps : Keeps back readNamed := by
  intro cs cs' opening rest hcs h
  obtain ⟨⟨name, mid⟩, hname, h⟩ := bind_eq_ok.1 h
  obtain ⟨rfl, rfl⟩ := Prod.mk.inj (Except.ok.inj h)
  obtain ⟨rest', hname', hrest⟩ := readGroupName_keeps _ _ _ _ hcs hname
  exact ⟨rest', bind_eq_ok.2 ⟨_, hname', rfl⟩, hrest⟩

theorem readMarked_keeps : Keeps back readMarked := by
  intro cs cs' opening rest hcs h
  cases cs with
  | nil => simp [readMarked, readFlags, readFlagsFor, bind, Except.bind] at h
  | cons c cs =>
    by_cases hlook : c = '=' ∨ c = '!'
    · rcases hlook with rfl | rfl <;> simp [readMarked] at h
    · rw [not_or] at hlook
      by_cases hangle : c = '<'
      · subst hangle
        obtain ⟨ds, rfl, hds⟩ := hcs.exists_cons
        cases cs with
        | nil => simp [readMarked, readGroupName, bind, Except.bind] at h
        | cons d cs =>
          obtain ⟨es, rfl, hes⟩ := Renamed.exists_cons hds
          by_cases hbehind : d = '=' ∨ d = '!'
          · rcases hbehind with rfl | rfl <;> simp [readMarked] at h
          · rw [not_or] at hbehind
            rw [readMarked_angle hbehind.1 hbehind.2] at h ⊢
            exact readNamed_keeps _ _ _ _ hds h
      · by_cases hp : c = 'P'
        · subst hp
          by_cases hname : ∃ ds, cs = '<' :: ds
          · obtain ⟨ds, rfl⟩ := hname
            obtain ⟨ds', rfl, hds'⟩ := hcs.exists_cons
            obtain ⟨es', rfl, hes'⟩ := Renamed.exists_cons hds'
            exact readNamed_keeps _ _ _ _ hes' h
          · rw [readMarked_flags (by decide) (by decide) (by decide)
              fun ds heq => hname ⟨ds, (List.cons.inj heq).2⟩] at h
            simp [readFlags, readFlagsFor, flag?, bind, Except.bind] at h
        · have hflags : ∀ ds, readMarked (c :: ds) = readFlags (c :: ds) := fun ds =>
            readMarked_flags hlook.1 hlook.2 hangle fun _ heq => hp (List.cons.inj heq).1
          obtain ⟨ds, rfl, -⟩ := hcs.exists_cons
          rw [hflags] at h ⊢
          exact readFlags_keeps _ _ _ _ hcs h

theorem readOpening_keeps (hback : Closing back) : Keeps back (readOpening extended) := by
  intro cs cs' opening rest hcs h
  have hskip : Renamed back false (skip extended cs) (skip extended cs') := hcs.skip extended hback
  unfold readOpening at h ⊢
  split at h
  · rename_i after hmark
    rw [hmark] at hskip
    obtain ⟨ds, hds, hrest⟩ := hskip.exists_cons
    rw [hds]
    exact readMarked_keeps _ _ _ _ hrest h
  · rename_i hmark
    obtain ⟨rfl, rfl⟩ := Prod.mk.inj (Except.ok.inj h)
    refine ⟨_, ?_, hskip.anywhere⟩
    split
    · rename_i heq
      exact absurd heq (hskip.ne_cons hback (by decide) hmark _)
    · rfl

/-! ## Tokens -/

/-- What the flags of an opening parenthesis change. -/
def Opening.changes : Opening → List (Flag × Bool)
  | .capture | .named _ => []
  | .plain changes | .directive changes => changes

/-- Whether an opening parenthesis begins a group. -/
def Opening.isGroup : Opening → Bool
  | .directive _ => false
  | _ => true

/-- Whether a part begins and ends no group and changes no flags. -/
def Token.isFlat : Token → Bool
  | .opening _ | .closing => false
  | _ => true

/-- Two parts that begin or end a group both or not, with the same flags. -/
inductive Alike : Token → Token → Prop
  | opening {o o' : Opening} (changes : o.changes = o'.changes) (isGroup : o.isGroup = o'.isGroup) :
    Alike (.opening o) (.opening o')
  | closing : Alike .closing .closing
  | flat {t t' : Token} (flat : t.isFlat) (flat' : t'.isFlat) : Alike t t'

theorem readGreed_renamed (hback : Closing back) (h : Renamed back b cs cs') :
    Renamed back b (readGreed cs).2 (readGreed cs').2 := by
  by_cases hmark : ∃ ds, cs = '?' :: ds
  · obtain ⟨ds, rfl⟩ := hmark
    cases h with
    | char hrest => exact Renamed.of_false hrest
  · rw [not_exists] at hmark
    rw [readGreed_keep hmark, readGreed_keep (h.ne_cons hback (by decide) hmark)]
    exact h

/-- The upper count stands between the comma and the brace. -/
theorem exists_readCount_of_readUpperCount {lower count : Option ℕ}
    (hcs : ∀ ds, skip extended cs ≠ '}' :: ds)
    (h : readUpperCount extended lower (',' :: cs) = .ok (count, rest)) :
    ∃ count', readCount extended (skip extended cs) = .ok (count', rest) := by
  simp only [readUpperCount] at h
  split at h
  · simp at h
  · exact ⟨_, h⟩

theorem readUpperCount_agree (hback : Closing back) (lower lower' : Option ℕ) :
    Agree back true (readUpperCount extended lower) (readUpperCount extended lower') := by
  intro cs cs' x x' rest rest' hcs h h'
  by_cases hcomma : ∃ ds, cs = ',' :: ds
  · obtain ⟨ds, rfl⟩ := hcomma
    cases hcs with
    | @char _ _ _ ds' hrest =>
      have hskip : Renamed back false (skip extended ds) (skip extended ds') :=
        Renamed.skip extended hback hrest
      by_cases hbrace : ∃ es, skip extended ds = '}' :: es
      · obtain ⟨es, hes⟩ := hbrace
        rw [hes] at hskip
        obtain ⟨es', hes', hrest⟩ := hskip.exists_cons
        simp only [readUpperCount, hes] at h
        simp only [readUpperCount, hes'] at h'
        obtain ⟨-, rfl⟩ := Prod.mk.inj (Except.ok.inj h)
        obtain ⟨-, rfl⟩ := Prod.mk.inj (Except.ok.inj h')
        exact .char hrest
      · rw [not_exists] at hbrace
        obtain ⟨count, hcount⟩ := exists_readCount_of_readUpperCount hbrace h
        obtain ⟨count', hcount'⟩ :=
          exists_readCount_of_readUpperCount (hskip.ne_cons hback (by decide) hbrace) h'
        exact readCount_agree hback _ _ _ _ _ _ hskip hcount hcount'
  · rw [not_exists] at hcomma
    rw [readUpperCount_keep hcomma] at h
    rw [readUpperCount_keep (hcs.ne_cons hback (by decide) hcomma)] at h'
    obtain ⟨-, rfl⟩ := Prod.mk.inj (Except.ok.inj h)
    obtain ⟨-, rfl⟩ := Prod.mk.inj (Except.ok.inj h')
    exact hcs

/-- Counts end with a brace, and a question mark behind it. -/
theorem exists_brace_of_readCounts {counts : ℕ × Option ℕ × Bool}
    (h : readCounts extended cs = .ok (counts, rest)) :
    ∃ lower mid upper left, readCount extended (skip extended cs) = .ok (lower, mid) ∧
      readUpperCount extended lower mid = .ok (upper, '}' :: left) ∧
        rest = (readGreed (skip extended left)).2 := by
  obtain ⟨⟨lower, mid⟩, hlower, h⟩ := bind_eq_ok.1 h
  obtain ⟨⟨upper, mid₂⟩, hupper, h⟩ := bind_eq_ok.1 h
  dsimp only at h
  split at h
  · split at h
    · exact ⟨_, mid, upper, _, hlower, hupper, (Prod.mk.inj (Except.ok.inj h)).2.symm⟩
    · simp at h
  · simp at h

theorem readCounts_agree (hback : Closing back) :
    Agree back false (readCounts extended) (readCounts extended) := by
  intro cs cs' counts counts' rest rest' hcs h h'
  obtain ⟨lower, mid, upper, left, hlower, hupper, rfl⟩ := exists_brace_of_readCounts h
  obtain ⟨lower', mid', upper', left', hlower', hupper', rfl⟩ := exists_brace_of_readCounts h'
  have hmid := readCount_agree hback _ _ _ _ _ _ (hcs.skip extended hback) hlower hlower'
  have hbrace := readUpperCount_agree hback lower lower' _ _ _ _ _ _ hmid hupper hupper'
  cases hbrace with
  | char hleft =>
    have hskip := Renamed.skip extended hback hleft
    exact (readGreed_renamed hback hskip).anywhere

/-- The beginning of a group of a component. -/
theorem readToken_group {name : List Char} (hname : '>' ∉ name) {token : Token}
    (h : readToken extended ('(' :: '?' :: 'P' :: '<' :: (name ++ '>' :: cs)) =
      .ok (token, rest)) : ∃ n, token = .opening (.named n) ∧ rest = cs := by
  have hopen : readToken extended ('(' :: '?' :: 'P' :: '<' :: (name ++ '>' :: cs)) =
      readNamed (name ++ '>' :: cs) >>= fun p => .ok (.opening p.1, p.2) := by
    cases extended <;> rfl
  rw [hopen] at h
  obtain ⟨⟨opening, left⟩, hopening, htoken⟩ := bind_eq_ok.1 h
  obtain ⟨⟨name', left'⟩, hread, hnamed⟩ := bind_eq_ok.1 hopening
  have hlist : name = (String.ofList name).toList := String.toList_ofList.symm
  rw [hlist] at hread hname
  obtain ⟨rfl, rfl⟩ := Prod.mk.inj (readGroupName_eq_ok hname hread)
  obtain ⟨rfl, rfl⟩ := Prod.mk.inj (Except.ok.inj hnamed)
  obtain ⟨rfl, rfl⟩ := Prod.mk.inj (Except.ok.inj htoken)
  exact ⟨_, rfl, rfl⟩

/-- A part that is one character. -/
theorem alike_of_ok {t t' token token' : Token} (ht : t.isFlat) (ht' : t'.isFlat)
    (hcs : Renamed back true cs cs') (h : (.ok (t, cs) : Except Error _) = .ok (token, rest))
    (h' : (.ok (t', cs') : Except Error _) = .ok (token', rest')) :
    Alike token token' ∧ Renamed back true rest rest' := by
  obtain ⟨rfl, rfl⟩ := Prod.mk.inj (Except.ok.inj h)
  obtain ⟨rfl, rfl⟩ := Prod.mk.inj (Except.ok.inj h')
  exact ⟨.flat ht ht', hcs⟩

/-- A part without a group in it, by what is read of it. -/
theorem alike_of_bind {α : Type} {read : List Char → Except Error (α × List Char)}
    (hread : Agree back false read read) {part : α → Token} (hpart : ∀ x, (part x).isFlat)
    {token token' : Token} (hcs : Renamed back false cs cs')
    (h : (read cs >>= fun p => .ok (part p.1, p.2)) = .ok (token, rest))
    (h' : (read cs' >>= fun p => .ok (part p.1, p.2)) = .ok (token', rest')) :
    Alike token token' ∧ Renamed back true rest rest' := by
  obtain ⟨⟨x, left⟩, hx, h⟩ := bind_eq_ok.1 h
  obtain ⟨⟨x', left'⟩, hx', h'⟩ := bind_eq_ok.1 h'
  obtain ⟨rfl, rfl⟩ := Prod.mk.inj (Except.ok.inj h)
  obtain ⟨rfl, rfl⟩ := Prod.mk.inj (Except.ok.inj h')
  exact ⟨.flat (hpart x) (hpart x'), hread _ _ _ _ _ _ hcs hx hx'⟩

theorem readToken_agree (hback : Closing back) {token token' : Token}
    (hcs : Renamed back true cs cs') (h : readToken extended cs = .ok (token, rest))
    (h' : readToken extended cs' = .ok (token', rest')) :
    Alike token token' ∧ Renamed back true rest rest' := by
  cases hcs with
  | done | taken => simp [readToken] at h
  | @group name cs cs' hinert hunclosed hrest =>
    have hplain : readToken extended ('(' :: '?' :: ':' :: cs) =
        .ok (.opening (.plain []), cs) := by
      cases extended <;> rfl
    rw [hplain] at h
    obtain ⟨rfl, rfl⟩ := Prod.mk.inj (Except.ok.inj h)
    obtain ⟨n, rfl, rfl⟩ := readToken_group hunclosed h'
    exact ⟨.opening rfl rfl, hrest.anywhere⟩
  | @char _ c cs cs' hrest =>
    have hgreed : Renamed back true (readGreed cs).2 (readGreed cs').2 :=
      (readGreed_renamed hback hrest).anywhere
    by_cases hc : c ∈ marks
    · simp only [marks, List.mem_cons, List.not_mem_nil, or_false] at hc
      rcases hc with rfl | rfl | rfl | rfl | rfl | rfl | rfl | rfl | rfl | rfl | rfl | rfl
      · obtain ⟨⟨opening, left⟩, hopening, h⟩ := bind_eq_ok.1 h
        obtain ⟨⟨opening', left'⟩, hopening', h'⟩ := bind_eq_ok.1 h'
        obtain ⟨rfl, rfl⟩ := Prod.mk.inj (Except.ok.inj h)
        obtain ⟨rfl, rfl⟩ := Prod.mk.inj (Except.ok.inj h')
        obtain ⟨left₁, hleft₁, hagree⟩ := readOpening_keeps hback _ _ _ _ hrest hopening
        obtain ⟨rfl, rfl⟩ := Prod.mk.inj (Except.ok.inj (hopening'.symm.trans hleft₁))
        exact ⟨.opening rfl rfl, hagree⟩
      · obtain ⟨rfl, rfl⟩ := Prod.mk.inj (Except.ok.inj h)
        obtain ⟨rfl, rfl⟩ := Prod.mk.inj (Except.ok.inj h')
        exact ⟨.closing, hrest.anywhere⟩
      · exact alike_of_ok rfl rfl hrest.anywhere h h'
      · exact alike_of_bind (readClass_agree hback) (fun _ => rfl) hrest h h'
      · exact alike_of_ok rfl rfl hgreed h h'
      · exact alike_of_ok rfl rfl hgreed h h'
      · exact alike_of_ok rfl rfl hgreed h h'
      · have hflat : ∀ counts : ℕ × Option ℕ × Bool,
            (Token.repetition counts.1 counts.2.1 counts.2.2).isFlat := fun _ => rfl
        exact alike_of_bind (readCounts_agree hback) hflat hrest h h'
      · exact alike_of_bind (readEscape_agree hback) (fun _ => rfl) hrest h h'
      · exact alike_of_ok rfl rfl hrest.anywhere h h'
      · exact alike_of_ok rfl rfl hrest.anywhere h h'
      · exact alike_of_ok rfl rfl hrest.anywhere h h'
    · rw [readToken_literal hc] at h h'
      exact alike_of_ok rfl rfl hrest.anywhere h h'

end PatternGrammar.Regex.Reader
