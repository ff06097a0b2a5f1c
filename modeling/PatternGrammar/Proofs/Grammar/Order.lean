import Mathlib.Data.List.Nodup
import Mathlib.Data.Nat.Notation
import PatternGrammar.Grammar.Expansion

/-!
# The order of expansion

Expanding rules keeps a memo in which each name comes after all names that its rule refers to
(`Grammar.Ordered`). A rule that was expanded is in the memo, whatever was there before
(`expandRule_keeps`, `expandGroups_keeps`). The place in the memo is then a rank of the rules that
goes down with each reference (`Grammar.Ordered.rank_lt`).
-/

namespace PatternGrammar.Grammar

/-! ## Rows of names in order -/

/-- The names are those of rules, each once, and each comes after the names that its rule refers
to. -/
inductive Ordered (g : Grammar) : List String → Prop
  | nil : Ordered g []
  | snoc {names : List String} {name : String} {r : Rule} (front : Ordered g names)
    (new : name ∉ names) (rule : g.get? name = some r)
    (references : ∀ ref ∈ r.description.references, ref ∈ names) : Ordered g (names ++ [name])

namespace Ordered

variable {g : Grammar} {names : List String}

theorem nodup (h : g.Ordered names) : names.Nodup := by
  induction h with
  | nil => exact List.nodup_nil
  | snoc _ new _ _ ih => exact List.nodup_append.2 ⟨ih, by simp, by simp; grind⟩

theorem exists_rule (h : g.Ordered names) : ∀ name ∈ names, ∃ r, g.get? name = some r := by
  induction h with
  | nil => simp
  | snoc _ _ rule _ ih =>
    intro name hname
    rcases List.mem_append.1 hname with hname | hname
    · exact ih name hname
    · obtain rfl := List.mem_singleton.1 hname
      exact ⟨_, rule⟩

/-- A reference goes to a name further in front. -/
theorem rank_lt (h : g.Ordered names) {name ref : String} {r : Rule} (hname : name ∈ names)
    (hr : g.get? name = some r) (href : ref ∈ r.description.references) :
    names.idxOf ref < names.idxOf name := by
  induction h with
  | nil => simp at hname
  | @snoc names last _ front new rule references ih =>
    by_cases hmem : name ∈ names
    · have hlt := ih hmem
      have : ref ∈ names := by
        by_contra hnot
        rw [List.idxOf_eq_length hnot] at hlt
        exact absurd (List.idxOf_lt_length_of_mem hmem) (by omega)
      rwa [List.idxOf_append_of_mem this, List.idxOf_append_of_mem hmem]
    · obtain rfl : name = last := by simpa [hmem] using hname
      obtain rfl := Option.some.inj (hr.symm.trans rule)
      have := references ref href
      rw [List.idxOf_append_of_mem this, List.idxOf_append_of_notMem hmem]
      have := List.idxOf_lt_length_of_mem this
      omega

end Ordered

/-! ## Expansions keep the order -/

/-- The names in a memo. -/
def Memo.names (memo : Memo) : List String := memo.map Prod.fst

/-- The expansion keeps a memo in order, adds no name of the path to it, and if it succeeds, the
names in `done` are in the memo. -/
def Keeps {α : Type} (g : Grammar) (path done : List String) (expand : Expanding α) : Prop :=
  ∀ memo : Memo, g.Ordered memo.names → (∀ n ∈ path, n ∉ memo.names) →
    g.Ordered (expand memo).2.names ∧ (∀ n ∈ path, n ∉ (expand memo).2.names) ∧
      memo.names ⊆ (expand memo).2.names ∧
      ∀ a, (expand memo).1 = .ok a → done ⊆ (expand memo).2.names

variable {g : Grammar} {path : List String}

theorem expandParts_keeps {reference : String → Expanding String}
    (href : ∀ name, g.Keeps path [name] (reference name)) (parts : List Part) :
    g.Keeps path (parts.filterMap Part.ruleName?) (expandParts reference parts) := by
  induction parts with
  | nil =>
    intro memo hmemo hpath
    exact ⟨hmemo, hpath, List.Subset.refl _, fun _ _ => List.nil_subset _⟩
  | cons part parts ih =>
    intro memo hmemo hpath
    cases part with
    | literal pattern =>
      obtain ⟨hmemo', hpath', hsub, hdone⟩ := ih memo hmemo hpath
      rw [expandParts]
      cases hrest : expandParts reference parts memo with
      | mk result memo' =>
        rw [hrest] at hmemo' hpath' hsub hdone
        cases result with
        | error e => exact ⟨hmemo', hpath', hsub, fun _ h => by simp at h⟩
        | ok bodies => exact ⟨hmemo', hpath', hsub, fun _ _ => hdone bodies rfl⟩
    | name name =>
      obtain ⟨hmemo₁, hpath₁, hsub₁, hdone₁⟩ := href name memo hmemo hpath
      rw [expandParts]
      cases hfirst : reference name memo with
      | mk body memo₁ =>
        rw [hfirst] at hmemo₁ hpath₁ hsub₁ hdone₁
        cases body with
        | error e => exact ⟨hmemo₁, hpath₁, hsub₁, fun _ h => by simp at h⟩
        | ok body =>
          obtain ⟨hmemo₂, hpath₂, hsub₂, hdone₂⟩ := ih memo₁ hmemo₁ hpath₁
          have hname : name ∈ memo₁.names := hdone₁ body rfl List.mem_cons_self
          dsimp only
          cases hrest : expandParts reference parts memo₁ with
          | mk result memo₂ =>
            rw [hrest] at hmemo₂ hpath₂ hsub₂ hdone₂
            cases result with
            | error e =>
              exact ⟨hmemo₂, hpath₂, List.Subset.trans hsub₁ hsub₂, fun _ h => by simp at h⟩
            | ok bodies =>
              refine ⟨hmemo₂, hpath₂, List.Subset.trans hsub₁ hsub₂, fun _ _ => ?_⟩
              exact List.cons_subset.2 ⟨hsub₂ hname, hdone₂ bodies rfl⟩

theorem keeps_error {α : Type} {done : List String} (e : ReferenceError) :
    g.Keeps path done (fun memo => ((.error e : Except ReferenceError α), memo)) :=
  fun _ hmemo hpath => ⟨hmemo, hpath, List.Subset.refl _, fun _ h => by simp at h⟩

theorem name_of_get? {name : String} {r : Rule} (h : g.get? name = some r) : r.name = name := by
  simpa using List.find?_some h

theorem Memo.lookup_eq_none_iff {memo : Memo} {name : String} :
    memo.lookup name = none ↔ name ∉ memo.names := by
  simp only [List.lookup_eq_none_iff, names, List.mem_map, not_exists, not_and]
  grind

/-- The expansion of a reference, by what expanding a rule does. -/
def following (g : Grammar) (referrer : String) (expand : Rule → Expanding String)
    (name : String) : Expanding String := fun memo =>
  match g.get? name with
  | none => (.error (.unknown referrer name), memo)
  | some target => expand target memo

theorem following_keeps {expand : Rule → Expanding String} (referrer : String)
    (hexpand : ∀ r, g.get? r.name = some r → g.Keeps path [r.name] (expand r)) (name : String) :
    g.Keeps path [name] (g.following referrer expand name) := by
  unfold following
  cases hget : g.get? name with
  | none => exact keeps_error _
  | some target =>
    obtain rfl := name_of_get? hget
    exact hexpand target hget

/-- A rule that is neither in the memo nor on the path is expanded from its components. -/
theorem expandWithin_succ (depth : ℕ) {r : Rule} {memo : Memo} (hlookup : memo.lookup r.name = none)
    (hpath : r.name ∉ path) :
    expandWithin g (depth + 1) path r memo =
      match expandParts (g.following r.name (expandWithin g depth (path ++ [r.name])))
        r.description.components memo with
      | (.error e, memo) => (.error e, memo)
      | (.ok bodies, memo) =>
        (.ok (r.description.assemble bodies),
          memo ++ [(r.name, r.description.assemble bodies)]) := by
  rw [expandWithin, hlookup]
  dsimp only
  rw [if_neg (by simpa using hpath)]
  rfl

theorem expandWithin_keeps (depth : ℕ) {r : Rule} (hr : g.get? r.name = some r) :
    g.Keeps path [r.name] (expandWithin g depth path r) := by
  induction depth generalizing path r with
  | zero => exact keeps_error _
  | succ depth ih =>
    intro memo hmemo hpath
    cases hlookup : memo.lookup r.name with
    | some pattern =>
      have hmem : r.name ∈ memo.names := by
        by_contra hnot
        rw [Memo.lookup_eq_none_iff.2 hnot] at hlookup
        simp at hlookup
      rw [expandWithin, hlookup]
      exact ⟨hmemo, hpath, List.Subset.refl _,
        fun _ _ => List.cons_subset.2 ⟨hmem, List.nil_subset _⟩⟩
    | none =>
      by_cases hin : r.name ∈ path
      · rw [expandWithin, hlookup]
        dsimp only
        rw [if_pos (by simpa using hin)]
        exact keeps_error _ memo hmemo hpath
      · rw [expandWithin_succ depth hlookup hin]
        -- the rule itself joins the path, so that nothing below it can enter its name
        have hbelow : ∀ n ∈ path ++ [r.name], n ∉ memo.names := by
          intro n hn
          rcases List.mem_append.1 hn with hn | hn
          · exact hpath n hn
          · obtain rfl := List.mem_singleton.1 hn
            exact Memo.lookup_eq_none_iff.1 hlookup
        have hreference := following_keeps r.name fun target htarget =>
          @ih (path ++ [r.name]) target htarget
        obtain ⟨hmemo', hpath', hsub, hdone⟩ :=
          expandParts_keeps hreference r.description.components memo hmemo hbelow
        cases hparts : expandParts (g.following r.name (expandWithin g depth (path ++ [r.name])))
          r.description.components memo with
        | mk result memo' =>
          rw [hparts] at hmemo' hpath' hsub hdone
          cases result with
          | error e =>
            exact ⟨hmemo', fun n hn => hpath' n (List.mem_append_left _ hn), hsub,
              fun _ h => by simp at h⟩
          | ok bodies =>
            have hnew : r.name ∉ memo'.names := hpath' r.name (by simp)
            have hnames : ∀ pattern, Memo.names (memo' ++ [(r.name, pattern)]) =
                memo'.names ++ [r.name] := by simp [Memo.names]
            dsimp only
            rw [hnames]
            refine ⟨hmemo'.snoc hnew hr fun ref href => hdone bodies rfl href, fun n hn => ?_,
              List.Subset.trans hsub (List.subset_append_left _ _), fun _ _ => by simp⟩
            rw [List.mem_append, List.mem_singleton]
            rintro (h | rfl)
            · exact hpath' n (List.mem_append_left _ hn) h
            · exact hin hn

theorem expandRule_keeps {r : Rule} (hr : g.get? r.name = some r) :
    g.Keeps [] [r.name] (expandRule g r) :=
  expandWithin_keeps _ hr

theorem expandGroups_eq (r : Rule) (memo : Memo) :
    expandGroups g r memo =
      match expandParts (g.following r.name (expandRule g)) r.description.components memo with
      | (.error e, memo) => (.error e, memo)
      | (.ok bodies, memo) => (.ok (r.description.assembleGroups bodies), memo) := rfl

theorem expandGroups_keeps (r : Rule) :
    g.Keeps [] r.description.references (expandGroups g r) := by
  intro memo hmemo hpath
  have hreference := following_keeps (g := g) r.name fun target htarget => expandRule_keeps htarget
  obtain ⟨hmemo', hpath', hsub, hdone⟩ :=
    expandParts_keeps hreference r.description.components memo hmemo hpath
  rw [expandGroups_eq]
  cases hparts : expandParts (g.following r.name (expandRule g)) r.description.components memo with
  | mk result memo' =>
    rw [hparts] at hmemo' hpath' hsub hdone
    cases result with
    | error e => exact ⟨hmemo', hpath', hsub, fun _ h => by simp at h⟩
    | ok bodies => exact ⟨hmemo', hpath', hsub, fun _ _ => hdone bodies rfl⟩

end PatternGrammar.Grammar
