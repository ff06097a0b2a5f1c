import Mathlib.Data.Nat.Notation
import PatternGrammar.Literal.Block

/-!
# Scanning blocks

A scan goes through the states that the characters lead to one after another, and ends at a closing
brace in the state that it began with. A text stands between the braces of a block iff it leads from
this state back to it (`scanBlock_eq_some_iff`).
-/

namespace PatternGrammar.Literal

/-- The state after a character inside a block. There is none after the brace that closes it. -/
def ScanState.next? (st : ScanState) (c : Char) : Option ScanState :=
  if st.escaped then some { st with escaped := false }
  else if c = '\\' then some { st with escaped := true }
  else if c = '[' then some { st with inClass := true }
  else if c = ']' then some { st with inClass := false }
  else if c = '{' ∧ !st.inClass then some { st with depth := st.depth + 1 }
  else if c = '}' ∧ !st.inClass then
    if st.depth = 0 then none else some { st with depth := st.depth - 1 }
  else some st

/-- The state after characters of which none closes the block. -/
def ScanState.after? (st : ScanState) : List Char → Option ScanState
  | [] => some st
  | c :: cs => (st.next? c).bind fun st => st.after? cs

theorem scanTo_cons (st : ScanState) (c : Char) (cs : List Char) :
    scanTo st (c :: cs) = match st.next? c with
      | none => some ([], cs)
      | some st => (scanTo st cs).map fun (inner, rest) => (c :: inner, rest) := by
  rw [scanTo, ScanState.next?]
  split
  · rfl
  split
  · rfl
  split
  · rfl
  split
  · rfl
  split
  · rfl
  split
  · split <;> rfl
  · rfl

/-- A block is closed by a brace in the state that a scan begins with. -/
theorem ScanState.next?_eq_none_iff {st : ScanState} {c : Char} :
    st.next? c = none ↔ st = {} ∧ c = '}' := by
  obtain ⟨escaped, inClass, depth⟩ := st
  constructor
  · intro h
    unfold next? at h
    repeat' split at h
    all_goals simp_all
  · rintro ⟨hst, rfl⟩
    rw [hst]
    rfl

/-- A scan finds the brace after a text that leads to the state that blocks begin with. -/
theorem scanTo_eq_some_iff {st : ScanState} {cs inner rest : List Char} :
    scanTo st cs = some (inner, rest) ↔ st.after? inner = some {} ∧ cs = inner ++ '}' :: rest := by
  induction cs generalizing st inner with
  | nil => simp [scanTo]
  | cons c cs ih =>
    rw [scanTo_cons]
    cases hnext : st.next? c with
    | none =>
      obtain ⟨rfl, rfl⟩ := ScanState.next?_eq_none_iff.1 hnext
      constructor
      · rintro ⟨⟩
        exact ⟨rfl, rfl⟩
      · rintro ⟨hafter, heq⟩
        cases inner with
        | nil =>
          obtain ⟨-, rfl⟩ := List.cons.inj heq
          rfl
        | cons c' inner =>
          obtain ⟨rfl, -⟩ := List.cons.inj heq
          rw [ScanState.after?, hnext] at hafter
          simp at hafter
    | some st' =>
      constructor
      · intro h
        obtain ⟨⟨inner', rest'⟩, hscan, heq⟩ := Option.map_eq_some_iff.1 h
        obtain ⟨rfl, rfl⟩ := Prod.mk.inj heq
        obtain ⟨hafter, rfl⟩ := ih.1 hscan
        refine ⟨?_, rfl⟩
        rw [ScanState.after?, hnext]
        exact hafter
      · rintro ⟨hafter, heq⟩
        cases inner with
        | nil =>
          obtain ⟨rfl, -⟩ := List.cons.inj heq
          obtain rfl := Option.some.inj hafter
          rw [ScanState.next?_eq_none_iff.2 ⟨rfl, rfl⟩] at hnext
          simp at hnext
        | cons c' inner =>
          obtain ⟨rfl, rfl⟩ := List.cons.inj heq
          rw [ScanState.after?, hnext] at hafter
          dsimp only
          rw [ih.2 ⟨hafter, rfl⟩]
          rfl

/-- A block is what stands between an opening brace and the closing brace that belongs to it. -/
theorem scanBlock_eq_some_iff {cs inner rest : List Char} :
    scanBlock cs = some (inner, rest) ↔
      ScanState.after? {} inner = some {} ∧ cs = '{' :: inner ++ '}' :: rest := by
  unfold scanBlock
  split
  · rename_i cs
    rw [scanTo_eq_some_iff, List.cons_append, List.cons.injEq, eq_self, true_and]
  · rename_i hbrace
    constructor
    · intro h
      simp at h
    · rintro ⟨-, rfl⟩
      exact (hbrace _ rfl).elim

end PatternGrammar.Literal
