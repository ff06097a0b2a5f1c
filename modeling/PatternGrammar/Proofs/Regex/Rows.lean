import PatternGrammar.Proofs.Regex.Assembly

/-!
# What rows of groups match and record

A row of groups matches what its groups match one after another, a choice between groups what one of
them does; flags do not pass from one group to the next. A pattern records its own groups only
(`records_of_branches`).
-/

namespace PatternGrammar.Regex

open Pattern

namespace Expr

/-! ## Sequences and alternatives -/

/-- The expression is a group. -/
def IsGroup (e : Expr) : Prop := ∃ kind body, e = .group kind body

/-- The expression has one branch and leaves the flags as they are. -/
def Resolves (f : Flags) (e : Expr) (q : Pattern) : Prop := branches f e = .ok ([q], f)

variable {e : Expr} {es : List Expr} {f g : Flags} {ps : List Pattern}

theorem resolves_of_group (he : e.IsGroup) (h : branches f e = .ok (ps, g)) :
    ∃ q, Resolves f e q ∧ ps = [q] ∧ g = f := by
  obtain ⟨kind, body, rfl⟩ := he
  cases kind with
  | capture index name =>
    obtain ⟨⟨qs, _⟩, hqs, h'⟩ := bind_eq_ok.1 h
    obtain ⟨rfl, rfl⟩ := Prod.mk.inj (Except.ok.inj h')
    exact ⟨_, h, rfl, rfl⟩
  | plain changes =>
    obtain ⟨⟨qs, _⟩, hqs, h'⟩ := bind_eq_ok.1 h
    obtain ⟨rfl, rfl⟩ := Prod.mk.inj (Except.ok.inj h')
    exact ⟨_, h, rfl, rfl⟩

/-- A row of groups matches what the groups match one after another. -/
theorem resolves_ofSequence (hes : ∀ e ∈ es, e.IsGroup)
    (h : branches f (ofSequence es) = .ok (ps, g)) :
    g = f ∧ ∃ qs, List.Forall₂ (Resolves f) es qs ∧
      ∀ text a b, (choose ps).Matches text a b ↔ MatchesRow text qs a b := by
  induction es generalizing ps g with
  | nil =>
    obtain ⟨rfl, rfl⟩ := Prod.mk.inj (Except.ok.inj h)
    exact ⟨rfl, [], .nil, fun _ _ _ => Iff.rfl⟩
  | cons e es ih =>
    obtain ⟨he, hes⟩ := List.forall_mem_cons.1 hes
    cases es with
    | nil =>
      obtain ⟨q, hq, rfl, rfl⟩ := resolves_of_group he h
      exact ⟨rfl, [q], .cons hq .nil, fun _ _ _ => matchesRow_singleton.symm⟩
    | cons e' es =>
      obtain ⟨⟨ps₁, f₁⟩, hfirst, h⟩ := bind_eq_ok.1 h
      obtain ⟨⟨ps₂, f₂⟩, hrest, h⟩ := bind_eq_ok.1 h
      obtain ⟨rfl, rfl⟩ := Prod.mk.inj (Except.ok.inj h)
      obtain ⟨q, hq, rfl, rfl⟩ := resolves_of_group he hfirst
      obtain ⟨rfl, qs, hqs, hmatch⟩ := ih hes hrest
      refine ⟨rfl, q :: qs, .cons hq hqs, fun text a b => ?_⟩
      show ((choose [q]).join (choose ps₂)).Matches text a b ↔ _
      rw [matches_join]
      simp only [hmatch]
      exact Iff.rfl

/-- A choice between groups matches what one of the groups matches. -/
theorem resolves_ofAlternatives (hne : es ≠ []) (hes : ∀ e ∈ es, e.IsGroup)
    (h : branches f (ofAlternatives es) = .ok (ps, g)) :
    g = f ∧ List.Forall₂ (Resolves f) es ps := by
  induction es generalizing ps g with
  | nil => exact absurd rfl hne
  | cons e es ih =>
    obtain ⟨he, hes⟩ := List.forall_mem_cons.1 hes
    cases es with
    | nil =>
      obtain ⟨q, hq, rfl, rfl⟩ := resolves_of_group he h
      exact ⟨rfl, .cons hq .nil⟩
    | cons e' es =>
      obtain ⟨⟨ps₁, f₁⟩, hfirst, h⟩ := bind_eq_ok.1 h
      obtain ⟨⟨ps₂, f₂⟩, hrest, h⟩ := bind_eq_ok.1 h
      obtain ⟨rfl, rfl⟩ := Prod.mk.inj (Except.ok.inj h)
      obtain ⟨q, hq, rfl, rfl⟩ := resolves_of_group he hfirst
      obtain ⟨rfl, hqs⟩ := ih (by simp) hes hrest
      exact ⟨rfl, .cons hq hqs⟩

end Expr

/-! ## What is recorded -/

/-- On the way from the first cursor to the second only groups with certain numbers are recorded. -/
def Cursor.AddsOnly (s : ℕ → Prop) (a b : Cursor) : Prop :=
  ∃ new, b.saved = new ++ a.saved ∧ ∀ x ∈ new, s (x.1 / 2)

theorem Cursor.AddsOnly.of_eq {s : ℕ → Prop} {a b : Cursor} (h : b.saved = a.saved) :
    a.AddsOnly s b := ⟨[], h, by simp⟩

theorem Cursor.AddsOnly.trans {s : ℕ → Prop} {a b c : Cursor} (hab : a.AddsOnly s b)
    (hbc : b.AddsOnly s c) : a.AddsOnly s c := by
  obtain ⟨new, hnew, hs⟩ := hab
  obtain ⟨new', hnew', hs'⟩ := hbc
  refine ⟨new' ++ new, by rw [hnew', hnew, List.append_assoc], fun x hx => ?_⟩
  rcases List.mem_append.1 hx with hx | hx
  · exact hs' x hx
  · exact hs x hx

namespace Pattern

/-- A match of the pattern only records groups with certain numbers. -/
def Records (s : ℕ → Prop) (p : Pattern) : Prop :=
  ∀ text a b, p.Matches text a b → a.AddsOnly s b

variable {s : ℕ → Prop} {p q : Pattern} {text : Array Char} {a b : Cursor}

theorem records_nothing (h : ∀ text a b, p.Matches text a b → b.saved = a.saved) :
    p.Records s :=
  fun text a b hab => .of_eq (h text a b hab)

theorem Records.join (hp : p.Records s) (hq : q.Records s) : (p.join q).Records s := by
  intro text a b hab
  obtain ⟨m, ham, hmb⟩ := matches_join.1 hab
  exact (hp text a m ham).trans (hq text m b hmb)

theorem Records.choose {ps : List Pattern} (hps : ∀ p ∈ ps, p.Records s) :
    (choose ps).Records s := by
  intro text a b hab
  obtain ⟨p, hp, hab⟩ := matches_choose.1 hab
  exact hps p hp text a b hab

theorem Records.capture {index : ℕ} (hindex : s index) (hp : p.Records s) :
    (capture index p).Records s := by
  rintro text a b ⟨m, ham, rfl⟩
  obtain ⟨new, hnew, hs⟩ := hp text _ m ham
  refine ⟨(2 * index + 1, m.place) :: new ++ [(2 * index, a.place)], ?_, fun x hx => ?_⟩
  · simp [Cursor.record, hnew]
  · simp only [List.cons_append, List.mem_cons, List.mem_append, List.not_mem_nil, or_false] at hx
    rcases hx with rfl | hx | rfl
    · rwa [show (2 * index + 1) / 2 = index by omega]
    · exact hs x hx
    · rwa [show 2 * index / 2 = index by omega]

/-- A repetition is a number of matches one after another. -/
theorem exists_times_of_matches {min : ℕ} {max : Option ℕ} {greedy : Bool}
    (h : (p.times min max greedy).Matches text a b) : ∃ k, Times (p.Matches text) k a b := by
  have hplain : ∀ {min : ℕ} {max : Option ℕ}, (if min == 0 && max == some 0 then empty
      else if min == 1 && max == some 1 then p
      else repeated p min max greedy).Matches text a b → ∃ k, Times (p.Matches text) k a b := by
    intro min max h
    split at h
    · exact ⟨0, h⟩
    · split at h
      · exact ⟨1, b, h, rfl⟩
      · obtain ⟨k, -, hk⟩ := h
        exact ⟨k, hk⟩
  unfold times at h
  split at h
  exact hplain h

theorem Records.times (hp : p.Records s) (min : ℕ) (max : Option ℕ) (greedy : Bool) :
    (p.times min max greedy).Records s := by
  intro text a b hab
  obtain ⟨k, hk⟩ := exists_times_of_matches hab
  exact Times.trans_of (Q := Cursor.AddsOnly s) (fun _ => .of_eq rfl)
    (fun a m b ham hmb => (hp text a m ham).trans hmb) hk

theorem records_ofSet (set : CharSet) (asBytes : Bool) : (ofSet set asBytes).Records s := by
  refine records_nothing fun text a b hab => ?_
  obtain ⟨c, -, -, rfl⟩ := matches_ofSet.1 hab
  rfl

end Pattern

namespace Expr

theorem records_of_literalPattern {f : Flags} {c : Char} {byteEscape : Bool} {p : Pattern}
    {s : ℕ → Prop} (h : literalPattern f c byteEscape = .ok p) : p.Records s := by
  unfold literalPattern at h
  split at h
  · simp at h
  · split at h
    · obtain rfl := Except.ok.inj h
      exact records_ofSet _ _
    · obtain rfl := Except.ok.inj h
      refine records_nothing fun text a b hab => ?_
      obtain ⟨-, rfl⟩ := hab
      rfl

/-- The branches of an expression record the groups of the expression only. -/
theorem records_of_branches {e : Expr} {f g : Flags} {ps : List Pattern} {s : ℕ → Prop}
    (hs : e.AllGroups fun i _ => s i) (h : branches f e = .ok (ps, g)) :
    ∀ p ∈ ps, p.Records s := by
  have hempty : Pattern.empty.Records s := records_nothing fun _ _ _ hab => hab ▸ rfl
  induction e generalizing f g ps with
  | empty =>
    obtain ⟨rfl, -⟩ := Prod.mk.inj (Except.ok.inj h)
    exact List.forall_mem_singleton.2 hempty
  | directive changes =>
    obtain ⟨rfl, -⟩ := Prod.mk.inj (Except.ok.inj h)
    exact List.forall_mem_singleton.2 hempty
  | literal c byteEscape =>
    obtain ⟨p, hp, h⟩ := bind_eq_ok.1 h
    obtain ⟨rfl, -⟩ := Prod.mk.inj (Except.ok.inj h)
    exact List.forall_mem_singleton.2 (records_of_literalPattern hp)
  | assertion a =>
    obtain ⟨rfl, -⟩ := Prod.mk.inj (Except.ok.inj h)
    exact List.forall_mem_singleton.2 (records_nothing fun _ _ _ hab => hab.2 ▸ rfl)
  | group kind body ih =>
    obtain ⟨hkind, hbody⟩ := hs
    cases kind with
    | capture index name =>
      obtain ⟨⟨qs, _⟩, hqs, h⟩ := bind_eq_ok.1 h
      obtain ⟨rfl, -⟩ := Prod.mk.inj (Except.ok.inj h)
      exact List.forall_mem_singleton.2 (.capture hkind (.choose (ih hbody hqs)))
    | plain changes =>
      obtain ⟨⟨qs, _⟩, hqs, h⟩ := bind_eq_ok.1 h
      obtain ⟨rfl, -⟩ := Prod.mk.inj (Except.ok.inj h)
      exact List.forall_mem_singleton.2 (.choose (ih hbody hqs))
  | «repeated» body min max greedy ih =>
    obtain ⟨⟨qs, _⟩, hqs, h⟩ := bind_eq_ok.1 h
    obtain ⟨rfl, -⟩ := Prod.mk.inj (Except.ok.inj h)
    exact List.forall_mem_singleton.2 ((Records.choose (ih hs hqs)).times min max _)
  | concat first rest ihf ihr =>
    obtain ⟨⟨ps₁, f₁⟩, hfirst, h⟩ := bind_eq_ok.1 h
    obtain ⟨⟨ps₂, f₂⟩, hrest, h⟩ := bind_eq_ok.1 h
    obtain ⟨rfl, -⟩ := Prod.mk.inj (Except.ok.inj h)
    exact List.forall_mem_singleton.2
      ((Records.choose (ihf hs.1 hfirst)).join (.choose (ihr hs.2 hrest)))
  | alternate first rest ihf ihr =>
    obtain ⟨⟨ps₁, f₁⟩, hfirst, h⟩ := bind_eq_ok.1 h
    obtain ⟨⟨ps₂, f₂⟩, hrest, h⟩ := bind_eq_ok.1 h
    obtain ⟨rfl, -⟩ := Prod.mk.inj (Except.ok.inj h)
    exact List.forall_mem_append.2 ⟨ihf hs.1 hfirst, ihr hs.2 hrest⟩
  | _ =>
    -- a dot or a class is a set of characters
    obtain ⟨set, -, h⟩ := bind_eq_ok.1 h
    obtain ⟨rfl, -⟩ := Prod.mk.inj (Except.ok.inj h)
    exact List.forall_mem_singleton.2 (records_ofSet _ _)

end Expr

end PatternGrammar.Regex
