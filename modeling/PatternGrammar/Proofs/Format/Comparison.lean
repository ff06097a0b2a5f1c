import Mathlib.Data.List.Forall2
import PatternGrammar.Proofs.Text.Trimming
import PatternGrammar.Proofs.Tree.Traversal
import PatternGrammar.Text.Span

/-!
# Comparing what is written

What is needed to read a tree off a text that it is written as. Trees are alike when they have the
same shape and their nodes go together one by one (`Tree.Alike`). In a text, what stands in front of
a character that cannot belong to it is known from the text (`Text.append_inj_of_stop`); names and
spans are such pieces.

Main results:

* `Text.append_inj_of_stop`: where a piece ends.
* `Text.Span.text_append_inj`: a span is known from how it is written.
-/

namespace PatternGrammar

open PatternGrammar.Text (Span isName isNameChar)

/-! ## Pieces of texts -/

namespace Text

/-- A piece stops where the first character behind it cannot belong to it. -/
theorem stop_cons {α : Type} {p : α → Bool} {c : α} (h : p c = false) {cs : List α} :
    ∀ d ∈ (c :: cs).head?, p d = false := by
  rintro d ⟨⟩
  exact h

/-- A piece of a text is known where no character of it could be the first one behind it. -/
theorem append_inj_of_stop {α : Type} {p : α → Bool} {front front' rest rest' : List α}
    (hfront : ∀ c ∈ front, p c) (hrest : ∀ c ∈ rest.head?, p c = false)
    (hfront' : ∀ c ∈ front', p c) (hrest' : ∀ c ∈ rest'.head?, p c = false)
    (h : front ++ rest = front' ++ rest') : front = front' ∧ rest = rest' := by
  have htake := congrArg (List.takeWhile p) h
  have hdrop := congrArg (List.dropWhile p) h
  rw [takeWhile_append_stop hfront hrest, takeWhile_append_stop hfront' hrest'] at htake
  rw [dropWhile_append_stop hfront hrest, dropWhile_append_stop hfront' hrest'] at hdrop
  exact ⟨htake, hdrop⟩

theorem toList_toString (n : ℕ) : (toString n).toList = Nat.toDigits 10 n := by
  rw [Nat.toString_eq_repr, Nat.repr_eq_ofList_toDigits, String.toList_ofList]

theorem isDigit_of_mem_toString {n : ℕ} : ∀ c ∈ (toString n).toList, c.isDigit := fun _ hc =>
  Nat.isDigit_of_mem_toDigits (by decide) (by decide) (toList_toString n ▸ hc)

/-- A number is known from its digits. -/
theorem eq_of_toList_toString {m n : ℕ} (h : (toString m).toList = (toString n).toList) :
    m = n := by
  rw [toList_toString, toList_toString] at h
  rw [← Nat.ofDigitChars_ten_toDigits (n := m), h, Nat.ofDigitChars_ten_toDigits]

namespace Span

theorem toList_text (s : Span) :
    s.text.toList = (toString s.start).toList ++ '.' :: '.' :: (toString s.stop).toList := by
  rw [text, String.toList_append, String.toList_append, List.append_assoc]
  rfl

/-- A span is known from how it is written, where no digit stands behind it. -/
theorem text_append_inj {s s' : Span} {rest rest' : List Char}
    (hrest : ∀ c ∈ rest.head?, c.isDigit = false) (hrest' : ∀ c ∈ rest'.head?, c.isDigit = false)
    (h : s.text.toList ++ rest = s'.text.toList ++ rest') : s = s' ∧ rest = rest' := by
  have hpoint : Char.isDigit '.' = false := rfl
  rw [toList_text, toList_text, List.append_assoc, List.append_assoc] at h
  obtain ⟨hstart, h⟩ := append_inj_of_stop isDigit_of_mem_toString (stop_cons hpoint)
    isDigit_of_mem_toString (stop_cons hpoint) h
  obtain ⟨hstop, h⟩ := append_inj_of_stop isDigit_of_mem_toString hrest isDigit_of_mem_toString
    hrest' (List.cons.inj (List.cons.inj h).2).2
  refine ⟨?_, h⟩
  cases s
  cases s'
  rw [Span.mk.injEq]
  exact ⟨eq_of_toList_toString hstart, eq_of_toList_toString hstop⟩

end Span

/-- A name is known, where no character of a name stands behind it. -/
theorem name_append_inj {name name' : String} {rest rest' : List Char} (hname : isName name.toList)
    (hname' : isName name'.toList) (hrest : ∀ c ∈ rest.head?, isNameChar c = false)
    (hrest' : ∀ c ∈ rest'.head?, isNameChar c = false)
    (h : name.toList ++ rest = name'.toList ++ rest') : name = name' ∧ rest = rest' := by
  obtain ⟨hchars, h⟩ := append_inj_of_stop (isNameChar_of_isName hname) hrest
    (isNameChar_of_isName hname') hrest' h
  exact ⟨String.toList_injective hchars, h⟩

end Text

/-! ## Trees -/

namespace Tree

/-- The trees have the same shape, and the relation holds between nodes at the same place. -/
inductive Alike (R : Tree → Tree → Prop) : Tree → Tree → Prop where
  | intro {t u : Tree} (node : R t u) (children : List.Forall₂ (Alike R) t.children u.children) :
    Alike R t u

/-- All nodes of the tree have names. -/
def Named (t : Tree) : Prop := ∀ n ∈ t.nodes, isName n.ruleName.toList

/-- The root has no name, and all nodes below have one. -/
structure NamedBelow (t : Tree) : Prop where
  root : t.isRoot
  below : ∀ c ∈ t.children, c.Named

theorem named_iff {t : Tree} :
    t.Named ↔ isName t.ruleName.toList ∧ ∀ c ∈ t.children, c.Named := by
  rw [Named, nodes_eq, List.forall_mem_cons, List.forall_mem_flatMap]
  rfl

theorem isRoot_of_isName {t : Tree} (h : isName t.ruleName.toList) : t.isRoot = false := by
  have hne := Text.ne_nil_of_isName h
  rw [isRoot, beq_eq_false_iff_ne]
  exact fun heq => hne (by rw [heq]; rfl)

theorem isRoot_of_named {t : Tree} (h : t.Named) : t.isRoot = false :=
  isRoot_of_isName (named_iff.1 h).1

theorem named_leaf {rule : Rule} (span : Span) (text : String) (h : isName rule.name.toList) :
    (node rule span text []).Named :=
  named_iff.2 ⟨h, List.forall_mem_nil _⟩

theorem NamedBelow.isRoot_or_isName {t n : Tree} (h : t.NamedBelow) (hn : n ∈ t.nodes) :
    n.isRoot ∨ isName n.ruleName.toList := by
  rcases mem_nodes_iff.1 hn with rfl | ⟨c, hc, hn⟩
  · exact .inl h.root
  · exact .inr (h.below c hc n hn)

end Tree

end PatternGrammar
