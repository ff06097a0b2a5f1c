
/-!
# Stacks of work

A stack of work shrinks when its top is replaced by any number of pieces that each have a smaller
budget. There is no endless row of such steps, whatever the number of pieces; loops that work off a
stack end by this order.
-/

namespace PatternGrammar

/-- The budgets of the pieces of work on a stack, from its top. -/
structure Budgets where
  stack : List Nat

namespace Budgets

/-- `Below b a` says that `b` comes from `a` by replacing the top by pieces of smaller budgets. -/
inductive Below : Budgets → Budgets → Prop where
  | replace {top : Nat} {pieces rest : List Nat} (smaller : ∀ n ∈ pieces, n < top) :
    Below ⟨pieces ++ rest⟩ ⟨top :: rest⟩

theorem acc_nil : Acc Below ⟨[]⟩ :=
  Acc.intro _ fun _ h => nomatch h

/-- Work of smaller budgets can be put on a stack that ends. -/
theorem acc_append {top : Nat}
    (ends : ∀ n < top, ∀ rest, Acc Below ⟨rest⟩ → Acc Below ⟨n :: rest⟩) {rest : List Nat}
    (hrest : Acc Below ⟨rest⟩) :
    ∀ pieces : List Nat, (∀ n ∈ pieces, n < top) → Acc Below ⟨pieces ++ rest⟩
  | [], _ => hrest
  | n :: ns, smaller =>
    ends n (smaller n (List.mem_cons_self ..)) _
      (acc_append ends hrest ns fun m hm => smaller m (List.mem_cons_of_mem _ hm))

/-- One more piece of work on a stack that ends gives a stack that ends. -/
theorem acc_cons (top : Nat) : ∀ rest, Acc Below ⟨rest⟩ → Acc Below ⟨top :: rest⟩ := by
  induction top using Nat.strongRecOn with
  | ind top ih =>
    intro rest hrest
    refine Acc.intro _ fun b hb => ?_
    cases hb with
    | replace smaller => exact acc_append ih hrest _ smaller

theorem acc : ∀ stack : List Nat, Acc Below ⟨stack⟩
  | [] => acc_nil
  | top :: rest => acc_cons top rest (acc rest)

instance : WellFoundedRelation Budgets where
  rel := Below
  wf := ⟨fun b => acc b.stack⟩

end Budgets

end PatternGrammar
