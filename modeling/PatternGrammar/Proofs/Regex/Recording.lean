import PatternGrammar.Proofs.Regex.Inlining
import PatternGrammar.Proofs.Regex.Spans

/-!
# What named groups record

In a row of named groups each group has a number of its own, and what is recorded inside of it comes
before the next one (`Numbered`). So the groups of a match lie next to each other and fill it, and
of alternatives only the one that was taken records anything.

Main results:

* `named_row`: the groups of a row that matches a whole text divide the text.
* `Numbered.taken`: the group of the alternative that matches records its range, and the others
  record nothing.
-/

namespace PatternGrammar.Regex

open Reader Pattern
open PatternGrammar.Text (Span byteSize)
open Expr (ofSequence Resolves branches)

/-! ## Groups of a cursor -/

/-- The places between which a group matched last on the way to a cursor. -/
def Cursor.group (a : Cursor) (i : ℕ) : Option (ℕ × ℕ) := do
  return (← a.saved.lookup (2 * i), ← a.saved.lookup (2 * i + 1))

variable {text : Array Char} {a b : Cursor} {s : ℕ → Prop}

theorem lookup_append_of_adds {new saved : List (ℕ × ℕ)} {slot : ℕ}
    (hnew : ∀ x ∈ new, s (x.1 / 2)) (hslot : ¬s (slot / 2)) :
    (new ++ saved).lookup slot = saved.lookup slot := by
  have hnone : new.lookup slot = none := by
    rw [List.lookup_eq_none_iff]
    intro x hx
    rw [bne_iff_ne]
    rintro rfl
    exact hslot (hnew x hx)
  rw [List.lookup_append, hnone, Option.none_or]

/-- What is recorded in other groups does not change a group. -/
theorem Cursor.AddsOnly.group_eq (h : a.AddsOnly s b) {i : ℕ} (hi : ¬s i) : b.group i = a.group i := by
  obtain ⟨new, hnew, hs⟩ := h
  have hfirst : (2 * i) / 2 = i := by omega
  have hsecond : (2 * i + 1) / 2 = i := by omega
  rw [group, group, hnew, lookup_append_of_adds hs (by rwa [hfirst]),
    lookup_append_of_adds hs (by rwa [hsecond])]

theorem Cursor.AddsOnly.mono {s' : ℕ → Prop} (h : a.AddsOnly s b) (hs : ∀ i, s i → s' i) :
    a.AddsOnly s' b := by
  obtain ⟨new, hnew, hadds⟩ := h
  exact ⟨new, hnew, fun x hx => hs _ (hadds x hx)⟩

/-- A capturing group records where it matches, if nothing inside of it has its number. -/
theorem group_of_capture {p : Pattern} {index : ℕ} (hp : p.Records s) (hindex : ¬s index)
    (h : (capture index p).Matches text a b) : b.group index = some (a.place, b.place) := by
  obtain ⟨m, hm, rfl⟩ := h
  obtain ⟨new, hnew, hs⟩ := hp text _ m hm
  have hfirst : (2 * index) / 2 = index := by omega
  have hopen : m.saved.lookup (2 * index) = some a.place := by
    rw [hnew, lookup_append_of_adds hs (by rwa [hfirst])]
    exact List.lookup_cons_self
  have hne : (2 * index == 2 * index + 1) = false := by simp
  simp [Cursor.group, Cursor.record, List.lookup_cons, hne, hopen]

/-! ## Rows with numbers -/

/-- The patterns in groups with the given numbers. -/
def captures (row : List (ℕ × Pattern)) : List Pattern :=
  row.map fun x => capture x.1 x.2

/-- The numbers go up from `low`, and each pattern records only numbers between its own and the
next. -/
inductive Numbered : ℕ → List (ℕ × Pattern) → Prop
  | nil {low : ℕ} : Numbered low []
  | cons {low index next : ℕ} {p : Pattern} {row : List (ℕ × Pattern)} (above : low ≤ index)
    (below : index < next) (records : p.Records fun i => index < i ∧ i < next)
    (rest : Numbered next row) : Numbered low ((index, p) :: row)

theorem Numbered.low_le {low : ℕ} {row : List (ℕ × Pattern)} (h : Numbered low row) :
    ∀ x ∈ row, low ≤ x.1 := by
  induction h with
  | nil => simp
  | cons above below _ _ ih =>
    refine List.forall_mem_cons.2 ⟨above, fun x hx => ?_⟩
    have := ih x hx
    omega

/-- A group of a row records its own number and the numbers up to the next. -/
theorem records_capture {p : Pattern} {index next : ℕ} (below : index < next)
    (records : p.Records fun i => index < i ∧ i < next) :
    (capture index p).Records fun i => index ≤ i ∧ i < next := by
  refine Records.capture ⟨Nat.le_refl _, below⟩ fun text a b hab => ?_
  exact (records text a b hab).mono fun i hi => ⟨Nat.le_of_lt hi.1, hi.2⟩

/-- The ranges lie next to each other and go from the first place to the second. -/
def Tiles : ℕ → List (ℕ × ℕ) → ℕ → Prop
  | i, [], j => i = j
  | i, m :: ms, j => m.1 = i ∧ i ≤ m.2 ∧ Tiles m.2 ms j

/-- Each group of a row that matches records where its pattern matched, and these ranges lie next to
each other. -/
theorem Numbered.exists_tiles {low : ℕ} {row : List (ℕ × Pattern)} (h : Numbered low row)
    (hm : MatchesRow text (captures row) a b) :
    ∃ ranges, Tiles a.place ranges b.place ∧
      List.Forall₂ (fun x m => b.group x.1 = some m) row ranges ∧ a.AddsOnly (low ≤ ·) b := by
  induction h generalizing a with
  | nil =>
    obtain rfl : a = b := hm
    exact ⟨[], rfl, .nil, .of_eq rfl⟩
  | @cons low index next p row above below records rest ih =>
    obtain ⟨m, hfirst, hrest⟩ := hm
    obtain ⟨ranges, htiles, hgroups, hadds⟩ := ih hrest
    have hgroup := group_of_capture records (by omega) hfirst
    have hle : a.place ≤ m.place := hfirst.extends.1
    refine ⟨(a.place, m.place) :: ranges, ⟨rfl, hle, htiles⟩, .cons ?_ hgroups, ?_⟩
    · rw [hadds.group_eq (by omega), hgroup]
    · exact ((records_capture below records _ _ _ hfirst).mono fun i hi => by omega).trans
        (hadds.mono fun i hi => by omega)

/-- Where one of a row of alternatives matches, it records its range, and the others record
nothing. -/
theorem Numbered.taken {low : ℕ} {row front back : List (ℕ × Pattern)} {x : ℕ × Pattern}
    (h : Numbered low row) (hrow : row = front ++ x :: back)
    (hfree : ∀ y ∈ row, a.group y.1 = none) (hm : (capture x.1 x.2).Matches text a b) :
    b.group x.1 = some (a.place, b.place) ∧ (∀ y ∈ front ++ back, b.group y.1 = none) ∧
      a.AddsOnly (low ≤ ·) b := by
  induction h generalizing front with
  | nil => simp at hrow
  | @cons low index next p row above below records rest ih =>
    obtain ⟨hfirst, hfree⟩ := List.forall_mem_cons.1 hfree
    cases front with
    | nil =>
      obtain ⟨rfl, rfl⟩ := List.cons.inj hrow
      have hadds := records_capture below records _ _ _ hm
      refine ⟨group_of_capture records (by omega) hm, fun y hy => ?_,
        hadds.mono fun i hi => by omega⟩
      have hlow := rest.low_le y hy
      rw [hadds.group_eq (by omega), hfree y hy]
    | cons y front =>
      obtain ⟨rfl, rfl⟩ := List.cons.inj hrow
      obtain ⟨hx, hothers, hadds⟩ := ih rfl hfree
      refine ⟨hx, List.forall_mem_cons.2 ⟨?_, hothers⟩, hadds.mono fun i hi => by omega⟩
      rw [hadds.group_eq (by omega), hfirst]

/-! ## Numbers of names -/

theorem mem_groupNames {inner : List String} {e : Expr}
    (h : e.AllGroups fun _ name => ∀ n ∈ name, n ∈ inner) : ∀ x ∈ e.groupNames, x.1 ∈ inner := by
  induction e with
  | group kind body ih =>
    obtain ⟨hkind, hbody⟩ := h
    cases kind with
    | capture index name =>
      cases name with
      | none => exact ih hbody
      | some name => exact List.forall_mem_cons.2 ⟨hkind name rfl, ih hbody⟩
    | plain changes => exact ih hbody
  | «repeated» body min max greedy ih => exact ih h
  | concat first rest ihf ihr => exact List.forall_mem_append.2 ⟨ihf h.1, ihr h.2⟩
  | alternate first rest ihf ihr => exact List.forall_mem_append.2 ⟨ihf h.1, ihr h.2⟩
  | _ => simp [Expr.groupNames]

theorem groupNames_ofSequence (es : List Expr) :
    (ofSequence es).groupNames = es.flatMap Expr.groupNames := by
  induction es with
  | nil => rfl
  | cons e es ih =>
    cases es with
    | nil => simp [ofSequence]
    | cons e' es => rw [List.flatMap_cons, ← ih]; rfl

theorem groupNames_ofAlternatives (es : List Expr) :
    (Expr.ofAlternatives es).groupNames = es.flatMap Expr.groupNames := by
  induction es with
  | nil => rfl
  | cons e es ih =>
    cases es with
    | nil => simp [Expr.ofAlternatives]
    | cons e' es => rw [List.flatMap_cons, ← ih]; rfl

theorem forall₂_imp_mem {α β : Type} {R S : α → β → Prop} {as : List α} {bs : List β}
    (h : List.Forall₂ R as bs) (hRS : ∀ a ∈ as, ∀ b, R a b → S a b) : List.Forall₂ S as bs := by
  induction h with
  | nil => exact .nil
  | cons hab _ ih =>
    obtain ⟨hfirst, hrest⟩ := List.forall_mem_cons.1 hRS
    exact .cons (hfirst _ hab) (ih hrest)

theorem not_mem_of_wrapped {low high : ℕ} {known known' : List String}
    {parts : List (Option String × List Char)} {es : List Expr}
    (h : Wrapped low known parts es high known') : ∀ part ∈ parts, ∀ n ∈ part.1, n ∉ known := by
  induction h with
  | nil => simp
  | cons _ _ new _ ih =>
    refine List.forall_mem_cons.2 ⟨new, fun part hpart n hn hmem => ?_⟩
    exact ih part hpart n hn (List.mem_append_right _ hmem)

/-- The groups of a row with names have numbers that go up, and each is found under its name. -/
theorem exists_numbered {low high : ℕ} {known known' : List String}
    {named : List (String × List Char)} {es : List Expr} {qs : List Pattern}
    (h : Wrapped low known (nameParts named) es high known')
    (hqs : List.Forall₂ (Resolves {}) es qs) :
    ∃ row, qs = captures row ∧ Numbered (low + 1) row ∧
      List.Forall₂ (fun x y => (es.flatMap Expr.groupNames).lookup x.1 = some y.1) named row := by
  induction named generalizing low known es qs with
  | nil =>
    cases h
    cases hqs
    exact ⟨[], rfl, .nil, .nil⟩
  | cons x named ih =>
    cases h with
    | @cons _ k _ _ inner _ _ _ e _ es read counted new rest =>
      cases hqs with
      | cons hq hqs =>
        change Wrapped (low + 1 + k) (inner ++ [x.1] ++ known) _ _ _ _ at rest
        obtain ⟨row, rfl, hnumbered, hnames⟩ := ih rest hqs
        obtain ⟨ps, g, hps, rfl⟩ := exists_branches_of_wrapKind hq
        have hgroups : (e.shift (low + 1)).AllGroups fun i name =>
            low + 1 < i ∧ i < low + 1 + k + 1 ∧ ∀ n ∈ name, n ∈ inner := by
          refine Expr.allGroups_shift.2 (counted.mono fun i name hi => ?_)
          exact ⟨by omega, by omega, hi.2.2⟩
        refine ⟨(low + 1, choose ps) :: row, rfl, .cons (Nat.le_refl _) (by omega) ?_ hnumbered, ?_⟩
        · exact .choose (Expr.records_of_branches
            (hgroups.mono fun i name hi => ⟨hi.1, hi.2.1⟩) hps)
        · have hfront : ∀ y ∈ Expr.groupNames (.group (wrapKind low (some x.1)) (e.shift (low + 1))),
              y.1 ∈ inner ++ [x.1] := by
            refine List.forall_mem_cons.2 ⟨by simp, fun y hy => List.mem_append_left _ ?_⟩
            exact mem_groupNames (hgroups.mono fun i name hi => hi.2.2) y hy
          refine .cons List.lookup_cons_self (forall₂_imp_mem hnames fun y hy z hz => ?_)
          have hnew := not_mem_of_wrapped rest (some y.1, y.2) (List.mem_map_of_mem hy) y.1 rfl
          have hnone : (Expr.groupNames (.group (wrapKind low (some x.1)) (e.shift (low + 1)))).lookup
              y.1 = none := by
            rw [List.lookup_eq_none_iff]
            intro z hz
            rw [bne_iff_ne]
            intro heq
            exact hnew (List.mem_append_left _ (heq ▸ hfront z hz))
          show (Expr.groupNames (.group (wrapKind low (some x.1)) (e.shift (low + 1))) ++
            es.flatMap Expr.groupNames).lookup y.1 = some z.1
          rw [List.lookup_append, hnone, Option.none_or, hz]

/-! ## Searches -/

/-- The pattern of an expression between anchors. -/
theorem choose_anchorExpr {body : Expr} {ps : List Pattern} {f : Flags}
    (h : branches {} (anchorExpr body) = .ok (ps, f)) :
    ∃ qs g, branches {} body = .ok (qs, g) ∧
      choose ps = (look .start).join ((choose qs).join (look .stop)) := by
  obtain ⟨⟨ps₁, f₁⟩, hstart, h⟩ := bind_eq_ok.1 h
  obtain ⟨rfl, rfl⟩ := Prod.mk.inj (Except.ok.inj hstart)
  obtain ⟨⟨ps₂, f₂⟩, hrest, h⟩ := bind_eq_ok.1 h
  obtain ⟨rfl, rfl⟩ := Prod.mk.inj (Except.ok.inj h)
  obtain ⟨⟨ps₃, f₃⟩, hgroup, hrest⟩ := bind_eq_ok.1 hrest
  obtain ⟨⟨ps₄, f₄⟩, hstop, hrest⟩ := bind_eq_ok.1 hrest
  obtain ⟨rfl, rfl⟩ := Prod.mk.inj (Except.ok.inj hrest)
  obtain ⟨⟨qs, g⟩, hqs, hgroup⟩ := bind_eq_ok.1 hgroup
  obtain ⟨rfl, rfl⟩ := Prod.mk.inj (Except.ok.inj hgroup)
  obtain ⟨rfl, rfl⟩ := Prod.mk.inj (Except.ok.inj hstop)
  exact ⟨qs, g, hqs, rfl⟩

theorem matches_between_anchors {p : Pattern} :
    ((look .start).join (p.join (look .stop))).Matches text a b ↔
      a.place = 0 ∧ p.Matches text a b ∧ b.place = text.size := by
  simp only [matches_join]
  constructor
  · rintro ⟨m, ⟨hplace, rfl⟩, n, hn, hsize, rfl⟩
    simp only [Look.holds, beq_iff_eq] at hplace hsize
    exact ⟨hplace, hn, hsize⟩
  · rintro ⟨hplace, hab, hsize⟩
    exact ⟨a, ⟨by simpa [Look.holds] using hplace, rfl⟩, b, hab, by simpa [Look.holds] using hsize,
      rfl⟩

/-- Between anchors an expression matches whole texts only, and these as it does on its own. -/
theorem matches_anchorExpr {body : Expr} {ps : List Pattern} {f : Flags}
    (h : branches {} (anchorExpr body) = .ok (ps, f)) :
    ∃ qs g, branches {} body = .ok (qs, g) ∧ ∀ text a b, (choose ps).Matches text a b ↔
      a.place = 0 ∧ (choose qs).Matches text a b ∧ b.place = text.size := by
  obtain ⟨qs, g, hqs, hpattern⟩ := choose_anchorExpr h
  exact ⟨qs, g, hqs, fun text a b => hpattern ▸ matches_between_anchors⟩

/-- What a search finds is reported as its cursor has recorded it. -/
theorem named_of_search {re : Regex} {names : List String} {s : String} {t : Thread}
    (ht : search re.program s.toList.toArray 0 = some t) (hcursor : t.cursor = b.record 1) :
    re.named names s = some (names.map fun name =>
      ((re.groupNames.lookup name).bind (b.record 1).group).map (byteSpan (offsets s.toList))) := by
  have hgroup : t.group = (b.record 1).group := by
    rw [← hcursor]
    rfl
  simp only [named, ht, hgroup, Option.map_some]

/-- Named groups of a regular expression that matches whole texts only are those of a match of the
whole text. -/
theorem exists_match_of_named {re : Regex} (hre : re.program = re.pattern.program)
    {names : List String} {s : String} {groups : List (Option Span)}
    (h : re.named names s = some groups) :
    ∃ place b, re.pattern.Matches s.toList.toArray ⟨place, [(0, place)]⟩ b ∧
      groups = names.map fun name =>
        ((re.groupNames.lookup name).bind (b.record 1).group).map (byteSpan (offsets s.toList)) := by
  obtain ⟨t, ht, -⟩ := Option.map_eq_some_iff.1 h
  obtain ⟨place, -, -, b, hb, hcursor⟩ := search_sound (hre ▸ ht)
  exact ⟨place, b, hb, Option.some.inj (h.symm.trans (named_of_search ht hcursor))⟩

theorem group_record_one (b : Cursor) {i : ℕ} (hi : 0 < i) : (b.record 1).group i = b.group i := by
  have hadds : b.AddsOnly (· = 0) (b.record 1) := ⟨[(1, b.place)], rfl, by simp⟩
  exact hadds.group_eq (by omega)

variable {re : Regex} {named : List (String × List Char)} {row : List (ℕ × Pattern)}
  {groups : List (Option Span)} {source input : String}

theorem groupNames_anchorExpr (e : Expr) : (anchorExpr e).groupNames = e.groupNames := by
  simp [anchorExpr, ofSequence, Expr.groupNames]

/-- What is reported under the names of numbered groups is what the groups have recorded. -/
theorem map_named_eq {names : List (String × ℕ)} {f : ℕ × ℕ → Span} (hpos : ∀ y ∈ row, 0 < y.1)
    (h : List.Forall₂ (fun x y => names.lookup x.1 = some y.1) named row) :
    (named.map Prod.fst).map (fun name => ((names.lookup name).bind (b.record 1).group).map f) =
      row.map fun y => (b.group y.1).map f := by
  induction h with
  | nil => rfl
  | cons hxy _ ih =>
    obtain ⟨hfirst, hrest⟩ := List.forall_mem_cons.1 hpos
    rw [List.map_cons, List.map_cons, ih hrest, hxy, Option.bind_some,
      group_record_one b hfirst, List.map_cons]

theorem map_group_eq {f : ℕ × ℕ → Span} {ranges : List (ℕ × ℕ)}
    (h : List.Forall₂ (fun x m => b.group x.1 = some m) row ranges) :
    (row.map fun y => (b.group y.1).map f) = ranges.map fun m => some (f m) := by
  induction h with
  | nil => rfl
  | cons hxm _ ih => rw [List.map_cons, ih, hxm, List.map_cons, Option.map_some]

theorem map_group_none {f : ℕ × ℕ → Span} (h : ∀ y ∈ row, b.group y.1 = none) :
    (row.map fun y => (b.group y.1).map f) = List.replicate row.length none := by
  rw [List.eq_replicate_iff, List.length_map]
  refine ⟨rfl, List.forall_mem_map.2 fun y hy => ?_⟩
  rw [h y hy, Option.map_none]

/-- The groups of a row that matches a whole text divide the text. -/
theorem named_row (h : compile source = .ok re)
    (hsource : source.toList = anchor (wrapAll (nameParts named)))
    (hnamed : ∀ x ∈ named, Wrappable (some x.1) x.2)
    (hgroups : re.named (named.map Prod.fst) input = some groups) :
    ∃ ranges, Tiles 0 ranges input.toList.length ∧ ranges.length = named.length ∧
      groups = ranges.map fun m => some (byteSpan (offsets input.toList) m) := by
  obtain ⟨e, ps, f, hread, hps, hpattern, hnames⟩ := exists_branches_of_compile h
  rw [hsource] at hread
  obtain ⟨es, high, known, hwrapped, rfl⟩ :=
    read_anchored_row (List.forall_mem_map.2 hnamed) hread
  obtain ⟨qs, g, hqs, hanchored⟩ := matches_anchorExpr hps
  obtain ⟨-, qs', hqs', hmatch⟩ := Expr.resolves_ofSequence (isGroup_of_wrapped hwrapped) hqs
  obtain ⟨row, rfl, hnumbered, hlookup⟩ := exists_numbered hwrapped hqs'
  obtain ⟨place, b, hb, rfl⟩ := exists_match_of_named (program_of_compile h) hgroups
  rw [hpattern] at hb
  obtain ⟨hplace, hb, hsize⟩ := (hanchored _ _ _).1 hb
  obtain ⟨ranges, htiles, hranges, -⟩ := hnumbered.exists_tiles ((hmatch _ _ _).1 hb)
  rw [hplace, hsize] at htiles
  refine ⟨ranges, by simpa using htiles, by rw [← hranges.length_eq, ← hlookup.length_eq], ?_⟩
  rw [hnames, groupNames_anchorExpr, groupNames_ofSequence, map_named_eq hnumbered.low_le hlookup,
    map_group_eq hranges]

/-- What alternatives with names between anchors are compiled to. -/
theorem exists_row_of_barred (h : compile source = .ok re) (hne : named ≠ [])
    (hsource : source.toList = anchor (wrapBarred (nameParts named)))
    (hnamed : ∀ x ∈ named, Wrappable (some x.1) x.2) :
    ∃ row, re.pattern = (look .start).join ((choose (captures row)).join (look .stop)) ∧
      Numbered 1 row ∧
      List.Forall₂ (fun x y => re.groupNames.lookup x.1 = some y.1) named row ∧
      List.Forall₂ (fun part q => Inlines part.2 q) (nameParts named) (captures row) := by
  obtain ⟨e, ps, f, hread, hps, hpattern, hnames⟩ := exists_branches_of_compile h
  rw [hsource] at hread
  obtain ⟨es, high, known, hwrapped, rfl⟩ :=
    read_anchored_barred (by simpa [nameParts]) (List.forall_mem_map.2 hnamed) hread
  obtain ⟨qs, g, hqs, hanchored⟩ := choose_anchorExpr hps
  have hes : es ≠ [] := by
    rintro rfl
    cases named with
    | nil => exact hne rfl
    | cons x named => cases hwrapped
  obtain ⟨-, hqs'⟩ := Expr.resolves_ofAlternatives hes (isGroup_of_wrapped hwrapped) hqs
  obtain ⟨row, rfl, hnumbered, hlookup⟩ := exists_numbered hwrapped hqs'
  rw [hnames, groupNames_anchorExpr, groupNames_ofAlternatives]
  exact ⟨row, hpattern.trans hanchored, hnumbered, hlookup, inlines_of_wrapped hwrapped hqs'⟩

/-- At the start of a search no group is recorded but the match. -/
theorem group_start {place i : ℕ} (hi : 1 ≤ i) : Cursor.group ⟨place, [(0, place)]⟩ i = none := by
  have hne : (2 * i == 0) = false := by simp; omega
  simp [Cursor.group, List.lookup_cons, hne]

/-- What is reported of alternatives of which one has taken its part. -/
theorem map_taken_eq {f : ℕ × ℕ → Span} {names : List (String × ℕ)}
    {front back : List (ℕ × Pattern)} {x : ℕ × Pattern} {m : ℕ × ℕ}
    (hnames : List.Forall₂ (fun x y => names.lookup x.1 = some y.1) named (front ++ x :: back))
    (hpos : ∀ y ∈ front ++ x :: back, 0 < y.1) (hx : b.group x.1 = some m)
    (hothers : ∀ y ∈ front ++ back, b.group y.1 = none) :
    (named.map Prod.fst).map (fun name => ((names.lookup name).bind (b.record 1).group).map f) =
      List.replicate front.length none ++ some (f m) :: List.replicate back.length none := by
  obtain ⟨hfront, hback⟩ := List.forall_mem_append.1 hothers
  rw [map_named_eq hpos hnames, List.map_append, List.map_cons, hx, map_group_none hfront,
    map_group_none hback, Option.map_some]

end PatternGrammar.Regex
