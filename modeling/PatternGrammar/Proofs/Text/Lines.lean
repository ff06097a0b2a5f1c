import Mathlib.Data.Nat.Notation
import PatternGrammar.Grammar.Lines

/-!
# Lines of texts

Main results:

* `Lines.split_flatMap`: a text that is written line by line has these lines.
* `Lines.split_append_of_complete`, `Lines.length_split_of_complete`: where a row ends between two
  lines, the lines of what follows it are those of the rest, and there are as many lines before them
  as newlines.
-/

namespace PatternGrammar.Lines

variable {α : Type} [DecidableEq α] {newline ret : α}

theorem split_append_of_not_mem (acc rest : List α) {front : List α} (h : newline ∉ front) :
    split newline ret acc (front ++ rest) = split newline ret (front.reverse ++ acc) rest := by
  induction front generalizing acc with
  | nil => rfl
  | cons a front ih =>
    rw [List.mem_cons, not_or] at h
    rw [List.cons_append, split, if_neg (Ne.symm h.1), ih _ h.2, List.reverse_cons,
      List.append_assoc, List.singleton_append]

theorem split_append (acc line rest : List α) (h : newline ∉ line) :
    split newline ret acc (line ++ newline :: rest) =
      dropReturn ret (acc.reverse ++ line) :: split newline ret [] rest := by
  rw [split_append_of_not_mem _ _ h, split, if_pos rfl, List.reverse_append, List.reverse_reverse]

theorem not_mem_split {acc row : List α} (hacc : newline ∉ acc) :
    ∀ line ∈ split newline ret acc row, newline ∉ line := by
  have hdrop : ∀ {line : List α}, newline ∉ line → newline ∉ dropReturn ret line := by
    intro line hline
    unfold dropReturn
    split
    · exact fun hmem => hline (List.dropLast_subset _ hmem)
    · exact hline
  induction row generalizing acc with
  | nil =>
    cases acc with
    | nil => simp [split]
    | cons a acc =>
      intro line hline
      obtain rfl := List.mem_singleton.1 hline
      rwa [List.mem_reverse]
  | cons a row ih =>
    intro line hline
    rw [split] at hline
    split at hline
    · rcases List.mem_cons.1 hline with rfl | hline
      · exact hdrop (by rwa [List.mem_reverse])
      · exact ih (by simp) line hline
    · rename_i ha
      refine ih (fun hmem => ?_) line hline
      exact (List.mem_cons.1 hmem).elim (fun heq => ha heq.symm) hacc

/-- A line without a carriage return at its end is a line as it stands. -/
theorem dropReturn_eq {line : List α} (h : ∀ a ∈ line.getLast?, a ≠ ret) :
    dropReturn ret line = line :=
  if_neg fun heq => h ret heq rfl

/-- What can be written as a line and be read again. -/
structure IsLine (newline ret : α) (line : List α) : Prop where
  newline : newline ∉ line
  last : ∀ a ∈ line.getLast?, a ≠ ret

/-- A text that is written line by line has these lines. -/
theorem split_flatMap {lines : List (List α)} (h : ∀ line ∈ lines, IsLine newline ret line) :
    split newline ret [] (lines.flatMap (· ++ [newline])) = lines := by
  induction lines with
  | nil => rfl
  | cons line lines ih =>
    obtain ⟨hline, hlines⟩ := List.forall_mem_cons.1 h
    rw [List.flatMap_cons, List.append_assoc, List.singleton_append,
      split_append [] _ _ hline.newline, List.reverse_nil, List.nil_append,
      dropReturn_eq hline.last, ih hlines]

/-! ## Rows that end between two lines -/

/-- The row ends between two lines. -/
def Complete (newline : α) (row : List α) : Prop := row = [] ∨ row.getLast? = some newline

instance (newline : α) (row : List α) : Decidable (Complete newline row) :=
  inferInstanceAs (Decidable (_ ∨ _))

theorem split_append_newline (acc front rest : List α) :
    split newline ret acc (front ++ newline :: rest) =
      split newline ret acc (front ++ [newline]) ++ split newline ret [] rest := by
  induction front generalizing acc with
  | nil => simp [split]
  | cons a front ih =>
    rw [List.cons_append, List.cons_append, split, split]
    split
    · rw [ih, List.cons_append]
    · exact ih _

theorem length_split_newline (acc front : List α) :
    (split newline ret acc (front ++ [newline])).length = front.count newline + 1 := by
  induction front generalizing acc with
  | nil => simp [split]
  | cons a front ih =>
    rw [List.cons_append, split]
    split
    · rename_i ha
      rw [List.length_cons, ih, ha, List.count_cons_self]
    · rename_i ha
      rw [ih, List.count_cons_of_ne ha]

/-- What follows a row that ends between two lines begins with a line of its own. -/
theorem split_append_of_complete {front : List α} (h : Complete newline front) (rest : List α) :
    split newline ret [] (front ++ rest) =
      split newline ret [] front ++ split newline ret [] rest := by
  rcases h with rfl | h
  · rfl
  · obtain ⟨front, rfl⟩ := List.getLast?_eq_some_iff.1 h
    rw [List.append_assoc, List.singleton_append, split_append_newline]

/-- A row that ends between two lines has as many lines as newlines. -/
theorem length_split_of_complete {front : List α} (h : Complete newline front) :
    (split newline ret [] front).length = front.count newline := by
  rcases h with rfl | h
  · rfl
  · obtain ⟨front, rfl⟩ := List.getLast?_eq_some_iff.1 h
    rw [length_split_newline, List.count_append, List.count_singleton_self]

end PatternGrammar.Lines
