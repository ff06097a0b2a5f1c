import PatternGrammar.Proofs.Regex.Reader.Lexical
import PatternGrammar.Regex.Reader.Group

/-!
# Opening parentheses in front of a closing parenthesis

What an opening parenthesis begins is read the same with a closing parenthesis and more text behind
it (`Reader.readOpening_local`): flags have an end of their own, and so have names of groups.
-/

namespace PatternGrammar.Regex.Reader

variable {back cs cs' rest : List Char} {extended : Bool}

theorem readFlagsFor_local (value dangling : Bool) (seen : List (Flag × Bool)) :
    Local back (readFlagsFor value dangling seen) := by
  intro cs cs' changes rest hcs h
  induction cs generalizing value dangling seen cs' with
  | nil => simp [readFlagsFor] at h
  | cons c cs ih =>
    rw [hcs.eq_append]
    rw [readFlagsFor] at h ⊢
    split at h
    · rename_i hend
      rw [if_pos hend]
      split at h
      · simp at h
      · rename_i hdangling
        obtain ⟨rfl, rfl⟩ := Prod.mk.inj (Except.ok.inj h)
        exact ⟨_, if_neg hdangling, .refl⟩
    · rename_i hend
      rw [if_neg hend]
      split at h
      · rename_i hhyphen
        rw [if_pos hhyphen]
        split at h
        · rename_i hvalue
          rw [if_pos hvalue]
          exact ih _ _ _ _ .refl h
        · simp at h
      · rename_i hhyphen
        rw [if_neg hhyphen]
        split at h
        · simp at h
        · split at h
          · simp at h
          · rename_i hseen
            rw [if_neg hseen]
            exact ih _ _ _ _ .refl h

theorem openingOfFlags_local (changes : List (Flag × Bool)) :
    Local back (openingOfFlags changes) := by
  intro cs cs' opening rest hcs h
  unfold openingOfFlags at h
  split at h
  · simp at h
  · obtain ⟨rfl, rfl⟩ := Prod.mk.inj (Except.ok.inj h)
    exact ⟨_, by rw [hcs.eq_append]; rfl, .refl⟩
  · rename_i hcolon
    split at h
    · simp at h
    · rename_i hchanges
      obtain ⟨rfl, rfl⟩ := Prod.mk.inj (Except.ok.inj h)
      refine ⟨_, ?_, .refl⟩
      rw [hcs.eq_append]
      unfold openingOfFlags
      split
      · rename_i heq
        simp at heq
      · rename_i heq
        exact (hcolon (List.cons.inj heq).1).elim
      · rename_i heq
        rw [if_neg hchanges, (List.cons.inj heq).2]

theorem readFlags_local : Local back readFlags :=
  (readFlagsFor_local true false []).bind fun changes => openingOfFlags_local changes

theorem readGroupName_local : Local back readGroupName := by
  intro cs cs' name rest hcs h
  unfold readGroupName at h
  dsimp only at h
  split at h
  · rename_i mark left c row hrest hrow
    rcases hcs with rfl | ⟨rfl, rfl⟩
    · obtain ⟨htake, hdrop⟩ := cut_append back hrest
      split at h
      · rename_i hname
        obtain ⟨rfl, rfl⟩ := Prod.mk.inj (Except.ok.inj h)
        refine ⟨left ++ back, ?_, .refl⟩
        rw [readGroupName, htake, hdrop, hrow]
        exact if_pos hname
      · simp at h
    · simp at hrest
  · simp at h

/-! ## Question marks -/

/-- Reads the name of a group behind its angle bracket. -/
def readNamed (cs : List Char) : Except Error (Opening × List Char) := do
  let (name, rest) ← readGroupName cs
  return (.named name, rest)

theorem readNamed_local : Local back readNamed :=
  readGroupName_local.bind fun name => .keep (Opening.named name)

theorem readMarked_flags {c : Char} (hequals : c ≠ '=') (hbang : c ≠ '!') (hangle : c ≠ '<')
    (hname : ∀ ds, c :: cs ≠ 'P' :: '<' :: ds) : readMarked (c :: cs) = readFlags (c :: cs) := by
  unfold readMarked
  split
  all_goals first
    | rfl
    | simp_all

theorem readMarked_angle {c : Char} (hequals : c ≠ '=') (hbang : c ≠ '!') :
    readMarked ('<' :: c :: cs) = readNamed (c :: cs) := by
  unfold readMarked
  split
  all_goals first
    | rfl
    | simp_all [readNamed]

theorem readMarked_local : Local back readMarked := by
  intro cs cs' opening rest hcs h
  cases cs with
  | nil => simp [readMarked, readFlags, readFlagsFor, bind, Except.bind] at h
  | cons c cs =>
    rw [hcs.eq_append]
    by_cases hlook : c = '=' ∨ c = '!'
    · rcases hlook with rfl | rfl <;> simp [readMarked] at h
    · rw [not_or] at hlook
      by_cases hangle : c = '<'
      · subst hangle
        cases cs with
        | nil => simp [readMarked, readGroupName, bind, Except.bind] at h
        | cons d ds =>
          by_cases hbehind : d = '=' ∨ d = '!'
          · rcases hbehind with rfl | rfl <;> simp [readMarked] at h
          · rw [not_or] at hbehind
            rw [readMarked_angle hbehind.1 hbehind.2] at h
            rw [List.cons_append, readMarked_angle hbehind.1 hbehind.2]
            exact readNamed_local _ _ _ _ .refl h
      · by_cases hp : c = 'P'
        · subst hp
          by_cases hname : ∃ ds, cs = '<' :: ds
          · obtain ⟨ds, rfl⟩ := hname
            exact readNamed_local _ _ _ _ .refl h
          · rw [readMarked_flags (by decide) (by decide) (by decide)
              fun ds heq => hname ⟨ds, (List.cons.inj heq).2⟩] at h
            simp [readFlags, readFlagsFor, flag?, bind, Except.bind] at h
        · have hflags : ∀ ds, readMarked (c :: ds) = readFlags (c :: ds) := fun ds =>
            readMarked_flags hlook.1 hlook.2 hangle fun _ heq => hp (List.cons.inj heq).1
          rw [hflags] at h ⊢
          exact readFlags_local _ _ _ _ .refl h

theorem readOpening_local (hback : Closing back) : Local back (readOpening extended) := by
  intro cs cs' opening rest hcs h
  have hskip := hcs.skip extended hback
  unfold readOpening at h ⊢
  split at h
  · rename_i after hmark
    rw [hmark] at hskip
    rw [hskip.eq_append]
    exact readMarked_local _ _ _ _ .refl h
  · rename_i hmark
    obtain ⟨rfl, rfl⟩ := Prod.mk.inj (Except.ok.inj h)
    refine ⟨_, ?_, hskip⟩
    split
    · rename_i heq
      exact absurd heq (hskip.ne_cons hback (by decide) hmark _)
    · rfl

end PatternGrammar.Regex.Reader
