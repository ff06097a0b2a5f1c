import PatternGrammar.Proofs.Regex.AllMatches

/-!
# Regular expressions between anchors

Between anchors a regular expression matches whole texts only, and exactly those that it matches on
its own. So do a row of groups, a choice between groups and a repeated group, whether or not the
groups have names. Searching for an expression between anchors is the same as asking whether it
matches the whole text.

Main results:

* `isSome_named_iff` and `findsWhole_iff`: what a search for an anchored expression finds.
* `spans_anchored`: an anchored regular expression matches as it does on its own.
* `times_of_named`: a repeated group that matches a whole text divides it into so many matches.
* `named_repeated`: the group of a repetition takes part in each match of a text that is not empty.
-/

namespace PatternGrammar.Regex

open Reader Pattern
open PatternGrammar.Text (Span wholeSpan)
open Expr (branches)

variable {re r : Regex} {source s : String} {text : Array Char} {i j : ℕ}

/-- The regular expression can match the text from its start to its end. -/
def MatchesWhole (re : Regex) (s : String) : Prop :=
  re.CanMatch s 0 s.toList.length

/-- The regular expression can match nothing but the whole text. -/
def WholeOnly (re : Regex) (s : String) : Prop :=
  ∀ i j, re.CanMatch s i j → i = 0 ∧ j = s.toList.length

/-! ## Searches -/

theorem exists_group_of_search (h : compile source = .ok re) {start : ℕ} {t : Thread}
    (ht : search re.program s.toList.toArray start = some t) : ∃ m, t.group 0 = some m := by
  rw [program_of_compile h] at ht
  obtain ⟨place, -, -, hmatch⟩ := search_sound ht
  exact ⟨_, group_of_capture (records_of_compile h) (Nat.lt_irrefl 0) hmatch⟩

/-- A search finds a match of an expression that matches whole texts only iff it matches the text. -/
theorem exists_search_iff (h : compile source = .ok re) (hwhole : re.WholeOnly s) :
    (∃ t, search re.program s.toList.toArray 0 = some t) ↔ re.MatchesWhole s := by
  constructor
  · rintro ⟨t, ht⟩
    obtain ⟨⟨a, b⟩, hgroup⟩ := exists_group_of_search h ht
    obtain ⟨-, -, hmatch⟩ := canMatch_of_search h (Option.bind_eq_some_iff.2 ⟨t, ht, hgroup⟩)
    obtain ⟨rfl, rfl⟩ := hwhole a b hmatch
    exact hmatch
  · intro hmatch
    obtain ⟨a, b, hsearch, -⟩ := exists_search_of_canMatch h hmatch (Nat.le_refl 0) (Nat.zero_le _)
    obtain ⟨t, ht, -⟩ := Option.bind_eq_some_iff.1 hsearch
    exact ⟨t, ht⟩

theorem isSome_named_iff (h : compile source = .ok re) (hwhole : re.WholeOnly s)
    (names : List String) : (∃ groups, re.named names s = some groups) ↔ re.MatchesWhole s := by
  rw [← exists_search_iff h hwhole]
  simp [named]

/-- The first match of an expression that matches whole texts only is the whole text iff it matches
the text. -/
theorem findsWhole_iff (h : compile source = .ok re) (hwhole : re.WholeOnly s) :
    re.FindsWhole s ↔ re.MatchesWhole s := by
  constructor
  · intro hfinds
    rw [← exists_search_iff h hwhole]
    by_contra hnone
    have hsearch : search re.program s.toList.toArray 0 = none := by
      rw [Option.eq_none_iff_forall_ne_some]
      exact fun t ht => hnone ⟨t, ht⟩
    simp [FindsWhole, findAll, allMatches, matchesFrom, hsearch] at hfinds
  · intro hmatch
    obtain ⟨b, ms, hmatches, hb⟩ := allMatches_eq_cons h hmatch
    obtain ⟨-, rfl⟩ := hwhole 0 b hb
    simp only [FindsWhole, findAll, hmatches, List.map_cons, List.head?_cons, byteSpan_whole]

/-! ## Anchored expressions -/

theorem spans_anchorExpr {body : Expr} {ps : List Pattern} {f : Flags}
    (h : branches {} (anchorExpr body) = .ok (ps, f)) :
    ∃ qs g, branches {} body = .ok (qs, g) ∧ ∀ text i j, (choose ps).Spans text i j ↔
      i = 0 ∧ j = text.size ∧ (choose qs).Spans text i j := by
  obtain ⟨qs, g, hqs, hmatch⟩ := matches_anchorExpr h
  refine ⟨qs, g, hqs, fun text i j => ?_⟩
  rw [spans_iff [], spans_iff []]
  simp only [hmatch]
  constructor
  · rintro ⟨s', hi, hqs, hj⟩
    exact ⟨hi, hj, s', hqs⟩
  · rintro ⟨hi, hj, s', hqs⟩
    exact ⟨s', hi, hqs, hj⟩

/-- An anchored regular expression matches whole texts, as it does on its own. -/
theorem spans_anchored {p : String} (h : compile source = .ok re)
    (hsource : source.toList = anchor p.toList) (hp : compile p = .ok r)
    (hline : '\n' ∉ p.toList) :
    re.pattern.Spans text i j ↔ i = 0 ∧ j = text.size ∧ r.pattern.Spans text i j := by
  obtain ⟨e, ps, f, hread, hps, hpattern, -⟩ := exists_branches_of_compile h
  rw [hsource] at hread
  obtain ⟨e₀, hread₀, rfl⟩ := read_anchored (wrappable_of_compile (by simp) hline hp) hread
  obtain ⟨qs, g, hqs, hanchored⟩ := spans_anchorExpr hps
  have hsame : r.pattern.SameSpans (choose qs) := inlines_of_branches hread₀ hqs p r rfl hp
  rw [hpattern, hanchored, hsame text]

/-- What matches whole texts, and these as another regular expression does, matches nothing else. -/
theorem wholeOnly_of_spans (hre : re.program = re.pattern.program)
    (hr : r.program = r.pattern.program)
    (h : ∀ i j, re.pattern.Spans s.toList.toArray i j ↔
      i = 0 ∧ j = s.toList.toArray.size ∧ r.pattern.Spans s.toList.toArray i j) :
    re.WholeOnly s ∧ (re.MatchesWhole s ↔ r.MatchesWhole s) := by
  constructor
  · intro i j hmatch
    obtain ⟨hi, hj, -⟩ := (h i j).1 ((canMatch_iff hre).1 hmatch)
    exact ⟨hi, by simpa using hj⟩
  · rw [MatchesWhole, MatchesWhole, canMatch_iff hre, canMatch_iff hr, h]
    simp

section

variable {parts : List (Option String × List Char)} {res : List Regex}

/-- Groups between anchors match whole texts, as what they hold matches one after another. -/
theorem spans_anchored_row (h : compile source = .ok re)
    (hsource : source.toList = anchor (wrapAll parts))
    (hparts : ∀ part ∈ parts, Wrappable part.1 part.2) (hown : List.Forall₂ OwnRegex parts res) :
    re.pattern.Spans text i j ↔
      i = 0 ∧ j = text.size ∧ SpansRow text (res.map Regex.pattern) i j := by
  obtain ⟨e, ps, f, hread, hps, hpattern, -⟩ := exists_branches_of_compile h
  rw [hsource] at hread
  obtain ⟨es, high, known, hwrapped, rfl⟩ := read_anchored_row hparts hread
  obtain ⟨qs, g, hqs, hanchored⟩ := spans_anchorExpr hps
  obtain ⟨-, qs', hqs', hmatch⟩ := Expr.resolves_ofSequence (isGroup_of_wrapped hwrapped) hqs
  rw [hpattern, hanchored, spans_iff [], spansRow_congr
    (sameSpans_of_inlines hown (inlines_of_wrapped hwrapped hqs')), spansRow_iff []]
  simp only [hmatch]

/-- Alternatives between anchors match whole texts, as one of them does. -/
theorem spans_anchored_barred (h : compile source = .ok re)
    (hsource : source.toList = anchor (wrapBarred parts)) (hne : parts ≠ [])
    (hparts : ∀ part ∈ parts, Wrappable part.1 part.2) (hown : List.Forall₂ OwnRegex parts res) :
    re.pattern.Spans text i j ↔ i = 0 ∧ j = text.size ∧ ∃ r ∈ res, r.pattern.Spans text i j := by
  obtain ⟨e, ps, f, hread, hps, hpattern, -⟩ := exists_branches_of_compile h
  rw [hsource] at hread
  obtain ⟨es, high, known, hwrapped, rfl⟩ := read_anchored_barred hne hparts hread
  obtain ⟨qs, g, hqs, hanchored⟩ := spans_anchorExpr hps
  have hes : es ≠ [] := by
    rintro rfl
    cases parts with
    | nil => exact hne rfl
    | cons part parts => cases hwrapped
  obtain ⟨-, hqs'⟩ := Expr.resolves_ofAlternatives hes (isGroup_of_wrapped hwrapped) hqs
  rw [hpattern, hanchored, spans_choose, ← exists_spans_congr
    (sameSpans_of_inlines hown (inlines_of_wrapped hwrapped hqs'))]
  simp

end

/-- A repeated group between anchors matches whole texts, as its body matches a number of times
within the bounds. -/
theorem spans_anchored_repeated {b : String} {name : Option String} {q : Quantifier}
    (h : compile source = .ok re)
    (hsource : source.toList = anchor (wrap name b.toList ++ q.text.toList)) (hq : Ordered q)
    (hb : compile b = .ok r) (hwrap : Wrappable name b.toList) :
    re.pattern.Spans text i j ↔ i = 0 ∧ j = text.size ∧
      ∃ k, InBounds q.bounds.1.toNat (q.bounds.2.map UInt32.toNat) k ∧
        Times (r.pattern.Spans text) k i j := by
  obtain ⟨e, ps, f, hread, hps, hpattern, -⟩ := exists_branches_of_compile h
  rw [hsource] at hread
  obtain ⟨e₀, hread₀, rfl⟩ := read_anchored_repeated hwrap hq hread
  obtain ⟨qs, g, hqs, hanchored⟩ := spans_anchorExpr hps
  rw [hpattern, hanchored, spans_repeated_group hread₀ hb hqs]

/-! ## The group of a repetition -/

/-- What a repeated group matches as a whole text is what its body matches on its own, laid end to
end a number of times within the bounds. -/
theorem times_of_named {b name : String} {q : Quantifier} {names : List String}
    {groups : List (Option Span)} (h : compile source = .ok re)
    (hsource : source.toList = anchor (wrap (some name) b.toList ++ q.text.toList))
    (hq : Ordered q) (hb : compile b = .ok r) (hwrap : Wrappable (some name) b.toList)
    (hgroups : re.named names s = some groups) :
    ∃ k, InBounds q.bounds.1.toNat (q.bounds.2.map UInt32.toNat) k ∧
      Times (r.pattern.Spans s.toList.toArray) k 0 s.toList.length := by
  obtain ⟨place, t, ht, -⟩ := exists_match_of_named (program_of_compile h) hgroups
  have hspans : re.pattern.Spans s.toList.toArray place t.place := (spans_iff _).2 ⟨t.saved, ht⟩
  obtain ⟨rfl, hstop, hk⟩ := (spans_anchored_repeated h hsource hq hb hwrap).1 hspans
  rwa [hstop, List.size_toArray] at hk

/-- What holds after each step holds after any number of steps but none. -/
theorem Times.last {α : Type} {R : α → α → Prop} {Q : α → Prop} (hstep : ∀ a b, R a b → Q b) {n : ℕ}
    {a b : α} (hab : Times R n a b) : a = b ∨ Q b := by
  induction n generalizing a with
  | zero => exact .inl hab
  | succ n ih =>
    obtain ⟨m, ham, hmb⟩ := hab
    rcases ih hmb with rfl | hb
    · exact .inr (hstep a m ham)
    · exact .inr hb

/-- The group of a repetition takes part in each match of a text that is not empty. -/
theorem named_repeated {b name : String} {q : Quantifier} {groups : List (Option Span)}
    (h : compile source = .ok re)
    (hsource : source.toList = anchor (wrap (some name) b.toList ++ q.text.toList))
    (hq : Ordered q) (hwrap : Wrappable (some name) b.toList) (hs : s ≠ "")
    (hgroups : re.named [name] s = some groups) : ∃ m, groups = [some m] := by
  obtain ⟨e, ps, f, hread, hps, hpattern, hnames⟩ := exists_branches_of_compile h
  rw [hsource] at hread
  obtain ⟨e₀, hread₀, rfl⟩ := read_anchored_repeated hwrap hq hread
  obtain ⟨qs, g, hqs, hanchored⟩ := matches_anchorExpr hps
  obtain ⟨place, t, ht, rfl⟩ := exists_match_of_named (program_of_compile h) hgroups
  rw [hpattern] at ht
  obtain ⟨hplace, ht, hsize⟩ := (hanchored _ _ _).1 ht
  obtain ⟨⟨qs', _⟩, hqs', hqs⟩ := bind_eq_ok.1 hqs
  obtain ⟨rfl, -⟩ := Prod.mk.inj (Except.ok.inj hqs)
  obtain ⟨p, hp, rfl, -⟩ := Expr.resolves_of_group ⟨_, _, rfl⟩ hqs'
  obtain ⟨rs, _, hrs, rfl⟩ := exists_branches_of_wrapKind hp
  -- each round records the group, and the inside of it does not record this group again
  have hinside : (choose rs).Records (1 < ·) := by
    refine .choose (Expr.records_of_branches (Expr.allGroups_shift.2 ?_) hrs)
    exact (allGroups_of_read hread₀).mono fun i _ hi => Nat.lt_add_of_pos_right hi
  have hround : ∀ a b, (choose [capture 1 (choose rs)]).Matches s.toList.toArray a b →
      ∃ m, b.group 1 = some m := by
    intro a b hab
    rw [matches_choose, matchesAny_singleton] at hab
    exact ⟨_, group_of_capture hinside (Nat.lt_irrefl 1) hab⟩
  rw [matches_choose, matchesAny_singleton] at ht
  obtain ⟨k, hk⟩ := exists_times_of_matches ht
  rcases hk.last hround with rfl | ⟨m, hm⟩
  · rw [hplace] at hsize
    exact absurd (by simpa using hsize.symm) hs
  · refine ⟨byteSpan (offsets s.toList) m, ?_⟩
    have hlookup : re.groupNames.lookup name = some 1 := by
      rw [hnames, groupNames_anchorExpr]
      exact List.lookup_cons_self
    rw [List.map_singleton, hlookup, Option.bind_some, group_record_one t Nat.one_pos, hm,
      Option.map_some]

end PatternGrammar.Regex
