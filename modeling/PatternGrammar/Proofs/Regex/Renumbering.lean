import Mathlib.Data.Nat.Notation
import PatternGrammar.Proofs.Regex.Building
import PatternGrammar.Regex.Resolve

/-!
# Groups with other numbers

A regular expression that stands in another one has its groups counted on from those before it.
`Expr.shift` gives them their numbers there. It changes what is recorded, and not where the
expression matches (`Expr.branches_shift`).
-/

namespace PatternGrammar.Regex

namespace GroupKind

/-- The kind with the number of a capturing group raised. -/
def shift (k : ℕ) : GroupKind → GroupKind
  | capture index name => capture (k + index) name
  | plain changes => plain changes

/-- A capturing group has a property, by its number and name. -/
def Satisfies (p : ℕ → Option String → Prop) : GroupKind → Prop
  | capture index name => p index name
  | plain _ => True

theorem Satisfies.mono {p q : ℕ → Option String → Prop} (h : ∀ i name, p i name → q i name)
    {kind : GroupKind} (hkind : kind.Satisfies p) : kind.Satisfies q := by
  cases kind with
  | capture index name => exact h _ _ hkind
  | plain changes => trivial

theorem satisfies_shift {p : ℕ → Option String → Prop} {k : ℕ} {kind : GroupKind} :
    (kind.shift k).Satisfies p ↔ kind.Satisfies fun i name => p (k + i) name := by
  cases kind <;> exact Iff.rfl

end GroupKind

namespace Expr

/-- The expression with the numbers of its capturing groups raised. -/
def shift (k : ℕ) : Expr → Expr
  | group kind body => group (kind.shift k) (body.shift k)
  | repeated body min max greedy => repeated (body.shift k) min max greedy
  | concat first rest => concat (first.shift k) (rest.shift k)
  | alternate first rest => alternate (first.shift k) (rest.shift k)
  | e => e

theorem shift_ofSequence (k : ℕ) (es : List Expr) :
    (ofSequence es).shift k = ofSequence (es.map (shift k)) := by
  induction es with
  | nil => rfl
  | cons e es ih =>
    cases es with
    | nil => rfl
    | cons e' es => simpa [ofSequence, shift] using ih

theorem shift_ofAlternatives (k : ℕ) (es : List Expr) :
    (ofAlternatives es).shift k = ofAlternatives (es.map (shift k)) := by
  induction es with
  | nil => rfl
  | cons e es ih =>
    cases es with
    | nil => rfl
    | cons e' es => simpa [ofAlternatives, shift] using ih

/-! ## Capturing groups -/

/-- All capturing groups have a property, by their numbers and names. -/
def AllGroups (p : ℕ → Option String → Prop) : Expr → Prop
  | group kind body => kind.Satisfies p ∧ body.AllGroups p
  | repeated body _ _ _ => body.AllGroups p
  | concat first rest => first.AllGroups p ∧ rest.AllGroups p
  | alternate first rest => first.AllGroups p ∧ rest.AllGroups p
  | _ => True

theorem AllGroups.mono {p q : ℕ → Option String → Prop} (h : ∀ i name, p i name → q i name)
    {e : Expr} (he : e.AllGroups p) : e.AllGroups q := by
  induction e with
  | group kind body ih => exact ⟨he.1.mono h, ih he.2⟩
  | «repeated» body min max greedy ih => exact ih he
  | concat first rest ihf ihr => exact ⟨ihf he.1, ihr he.2⟩
  | alternate first rest ihf ihr => exact ⟨ihf he.1, ihr he.2⟩
  | _ => trivial

theorem allGroups_shift {p : ℕ → Option String → Prop} {k : ℕ} {e : Expr} :
    (e.shift k).AllGroups p ↔ e.AllGroups fun i name => p (k + i) name := by
  induction e with
  | group kind body ih => exact and_congr GroupKind.satisfies_shift ih
  | «repeated» body min max greedy ih => exact ih
  | concat first rest ihf ihr => exact and_congr ihf ihr
  | alternate first rest ihf ihr => exact and_congr ihf ihr
  | _ => exact Iff.rfl

theorem allGroups_ofSequence {p : ℕ → Option String → Prop} {es : List Expr} :
    (ofSequence es).AllGroups p ↔ ∀ e ∈ es, e.AllGroups p := by
  induction es with
  | nil => simp [ofSequence, AllGroups]
  | cons e es ih =>
    cases es with
    | nil => simp [ofSequence]
    | cons e' es =>
      rw [List.forall_mem_cons, ← ih]
      exact Iff.rfl

theorem allGroups_ofAlternatives {p : ℕ → Option String → Prop} {es : List Expr} :
    (ofAlternatives es).AllGroups p ↔ ∀ e ∈ es, e.AllGroups p := by
  induction es with
  | nil => simp [ofAlternatives, AllGroups]
  | cons e es ih =>
    cases es with
    | nil => simp [ofAlternatives]
    | cons e' es =>
      rw [List.forall_mem_cons, ← ih]
      exact Iff.rfl

/-! ## Where expressions match -/

end Expr

namespace Pattern

/-- Two patterns match at the same places. -/
def SameSpans (p q : Pattern) : Prop :=
  ∀ text i j, p.Spans text i j ↔ q.Spans text i j

theorem SameSpans.refl (p : Pattern) : p.SameSpans p := fun _ _ _ => Iff.rfl

theorem SameSpans.symm {p q : Pattern} (h : p.SameSpans q) : q.SameSpans p :=
  fun text i j => (h text i j).symm

theorem SameSpans.trans {p q r : Pattern} (h : p.SameSpans q) (h' : q.SameSpans r) :
    p.SameSpans r :=
  fun text i j => (h text i j).trans (h' text i j)

theorem sameSpans_singleton (p : Pattern) : (choose [p]).SameSpans p := by
  intro text i j
  rw [spans_choose, List.exists_mem_cons_iff]
  simp

theorem SameSpans.join {p p' q q' : Pattern} (hp : p.SameSpans p') (hq : q.SameSpans q') :
    (p.join q).SameSpans (p'.join q') := by
  intro text i j
  simp only [spans_join, hp text, hq text]

theorem exists_spans_congr {ps qs : List Pattern} (h : List.Forall₂ SameSpans ps qs)
    (text : Array Char) (i j : ℕ) :
    (∃ p ∈ ps, p.Spans text i j) ↔ ∃ q ∈ qs, q.Spans text i j := by
  induction h with
  | nil => simp
  | cons hpq _ ih => simp only [List.exists_mem_cons_iff, hpq text, ih]

theorem SameSpans.choose {ps qs : List Pattern} (h : List.Forall₂ SameSpans ps qs) :
    (choose ps).SameSpans (choose qs) := by
  intro text i j
  rw [spans_choose, spans_choose, exists_spans_congr h]

theorem SameSpans.times {p q : Pattern} (h : p.SameSpans q) (min : ℕ) (max : Option ℕ)
    (greedy : Bool) : (p.times min max greedy).SameSpans (q.times min max greedy) := by
  intro text i j
  have heq : p.Spans text = q.Spans text := by
    funext i j
    exact propext (h text i j)
  rw [spans_times, spans_times, heq]

end Pattern

namespace Expr

open Pattern (SameSpans)

theorem forall₂_refl (ps : List Pattern) : List.Forall₂ SameSpans ps ps :=
  List.forall₂_same.2 fun p _ => .refl p

/-- Other numbers of the groups do not change where the branches of an expression match, or the
flags after it. -/
theorem branches_shift {k : ℕ} {e : Expr} {f g g' : Flags} {ps qs : List Pattern}
    (h : branches f e = .ok (ps, g)) (h' : branches f (e.shift k) = .ok (qs, g')) :
    g = g' ∧ List.Forall₂ SameSpans ps qs := by
  induction e generalizing f g g' ps qs with
  | group kind body ih =>
    cases kind with
    | capture index name =>
      obtain ⟨⟨ps, _⟩, hps, h⟩ := bind_eq_ok.1 h
      obtain ⟨⟨qs, _⟩, hqs, h'⟩ := bind_eq_ok.1 h'
      obtain ⟨rfl, rfl⟩ := Prod.mk.inj (Except.ok.inj h)
      obtain ⟨rfl, rfl⟩ := Prod.mk.inj (Except.ok.inj h')
      exact ⟨rfl, .cons (SameSpans.choose (ih hps hqs).2) .nil⟩
    | plain changes =>
      obtain ⟨⟨ps, _⟩, hps, h⟩ := bind_eq_ok.1 h
      obtain ⟨⟨qs, _⟩, hqs, h'⟩ := bind_eq_ok.1 h'
      obtain ⟨rfl, rfl⟩ := Prod.mk.inj (Except.ok.inj h)
      obtain ⟨rfl, rfl⟩ := Prod.mk.inj (Except.ok.inj h')
      exact ⟨rfl, .cons (.choose (ih hps hqs).2) .nil⟩
  | «repeated» body min max greedy ih =>
    obtain ⟨⟨ps, _⟩, hps, h⟩ := bind_eq_ok.1 h
    obtain ⟨⟨qs, _⟩, hqs, h'⟩ := bind_eq_ok.1 h'
    obtain ⟨rfl, rfl⟩ := Prod.mk.inj (Except.ok.inj h)
    obtain ⟨rfl, rfl⟩ := Prod.mk.inj (Except.ok.inj h')
    obtain ⟨rfl, hsame⟩ := ih hps hqs
    exact ⟨rfl, .cons ((SameSpans.choose hsame).times min max _) .nil⟩
  | concat first rest ihf ihr =>
    obtain ⟨⟨ps, _⟩, hps, h⟩ := bind_eq_ok.1 h
    obtain ⟨⟨ps₂, _⟩, hps₂, h⟩ := bind_eq_ok.1 h
    obtain ⟨⟨qs, _⟩, hqs, h'⟩ := bind_eq_ok.1 h'
    obtain ⟨⟨qs₂, _⟩, hqs₂, h'⟩ := bind_eq_ok.1 h'
    obtain ⟨rfl, rfl⟩ := Prod.mk.inj (Except.ok.inj h)
    obtain ⟨rfl, rfl⟩ := Prod.mk.inj (Except.ok.inj h')
    obtain ⟨rfl, hfirst⟩ := ihf hps hqs
    obtain ⟨rfl, hrest⟩ := ihr hps₂ hqs₂
    exact ⟨rfl, .cons ((SameSpans.choose hfirst).join (.choose hrest)) .nil⟩
  | alternate first rest ihf ihr =>
    obtain ⟨⟨ps, _⟩, hps, h⟩ := bind_eq_ok.1 h
    obtain ⟨⟨ps₂, _⟩, hps₂, h⟩ := bind_eq_ok.1 h
    obtain ⟨⟨qs, _⟩, hqs, h'⟩ := bind_eq_ok.1 h'
    obtain ⟨⟨qs₂, _⟩, hqs₂, h'⟩ := bind_eq_ok.1 h'
    obtain ⟨rfl, rfl⟩ := Prod.mk.inj (Except.ok.inj h)
    obtain ⟨rfl, rfl⟩ := Prod.mk.inj (Except.ok.inj h')
    obtain ⟨rfl, hfirst⟩ := ihf hps hqs
    obtain ⟨rfl, hrest⟩ := ihr hps₂ hqs₂
    exact ⟨rfl, List.rel_append hfirst hrest⟩
  | _ =>
    obtain ⟨rfl, rfl⟩ := Prod.mk.inj (Except.ok.inj (h.symm.trans h'))
    exact ⟨rfl, forall₂_refl ps⟩

end Expr

end PatternGrammar.Regex
