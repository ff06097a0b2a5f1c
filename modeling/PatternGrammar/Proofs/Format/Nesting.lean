import PatternGrammar.Format.Tag
import PatternGrammar.Format.Treeviz
import PatternGrammar.Proofs.Grammar.Compiled
import PatternGrammar.Proofs.Tree.Height
import PatternGrammar.Tree.Json

/-!
# How deep writers of trees nest

A tree is written by a function that calls itself for the children of a node, and puts together what
it gets. `Tree.fold` is such a function; `Tree.foldWithin` is the same function where no more than a
number of calls may stand inside one another. It gives a result exactly for the trees that are no
higher than this number. The tags, the indented lines and the JSON value of a tree are written in
this way, so that the limit on the depth of searches also limits how deep their writers nest.

Main results:

* `Tree.foldWithin_eq`: the nesting of calls is the height of the tree.
* `Builder.nesting_le_of_build`: the height of a tree that is built, and with it the nesting of its
  writers, is at most twice the limit and two more.
-/

namespace PatternGrammar

open PatternGrammar.Text (Span)

namespace Tree

section

variable {β : Type} (f : Tree → List β → β)

mutual

/-- What a node gives by `f` from itself and from what its children give. -/
def fold : Tree → β
  | node rule span text cs => f (node rule span text cs) (folds cs)

/-- What the trees of a row give. -/
def folds : List Tree → List β
  | [] => []
  | t :: ts => fold t :: folds ts

end

/-- What a node gives by `f`, if at most `calls` calls stand inside one another. -/
def foldWithin : ℕ → Tree → Option β
  | 0, _ => none
  | calls + 1, t => (t.children.mapM (foldWithin calls)).map (f t)

variable {f}

theorem fold_eq (t : Tree) : fold f t = f t (folds f t.children) := by
  cases t
  rw [fold, children]

theorem mapM_foldWithin {calls : ℕ} {ts : List Tree}
    (h : ∀ t ∈ ts, foldWithin f calls t = if t.height ≤ calls then some (fold f t) else none) :
    ts.mapM (foldWithin f calls) =
      if ∀ t ∈ ts, t.height ≤ calls then some (folds f ts) else none := by
  induction ts with
  | nil => rfl
  | cons t ts ih =>
    obtain ⟨hfirst, hothers⟩ := List.forall_mem_cons.1 h
    have hall : (∀ u ∈ t :: ts, u.height ≤ calls) ↔
        t.height ≤ calls ∧ ∀ u ∈ ts, u.height ≤ calls := List.forall_mem_cons
    rw [List.mapM_cons, hfirst, ih hothers, folds]
    by_cases ht : t.height ≤ calls
    · by_cases hts : ∀ u ∈ ts, u.height ≤ calls
      · rw [if_pos ht, if_pos hts, if_pos (hall.2 ⟨ht, hts⟩)]
        rfl
      · rw [if_pos ht, if_neg hts, if_neg fun h => hts (hall.1 h).2]
        rfl
    · rw [if_neg ht, if_neg fun h => ht (hall.1 h).1]
      rfl

/-- As many calls stand inside one another as nodes on the longest way down. -/
theorem foldWithin_eq (calls : ℕ) (t : Tree) :
    foldWithin f calls t = if t.height ≤ calls then some (fold f t) else none := by
  induction calls generalizing t with
  | zero => rw [foldWithin, if_neg (Nat.not_le_of_lt t.height_pos)]
  | succ calls ih =>
    rw [foldWithin, mapM_foldWithin fun c _ => ih c, fold_eq]
    by_cases hc : ∀ c ∈ t.children, c.height ≤ calls
    · rw [if_pos hc, if_pos (height_le_iff.2 hc), Option.map_some]
    · rw [if_neg hc, if_neg fun h => hc (height_le_iff.1 h), Option.map_none]

end

/-! ## JSON -/

/-- A node as JSON, with its children. -/
def jsonNode (t : Tree) (inner : List Json) : Json :=
  .obj [("rule", t.rule.toJson), ("span", t.span.toJson), ("text", .str t.text),
    ("children", .arr inner)]

mutual

theorem toJson_eq_fold : ∀ t : Tree, t.toJson = fold jsonNode t
  | node rule span text cs => by
    rw [toJson, fold, rowToJson_eq_folds cs]
    rfl

theorem rowToJson_eq_folds : ∀ ts : List Tree, rowToJson ts = folds jsonNode ts
  | [] => by rw [rowToJson, folds]
  | t :: ts => by rw [rowToJson, folds, toJson_eq_fold t, rowToJson_eq_folds ts]

end

/-- A tree as JSON, if at most `calls` nodes stand inside one another. -/
def toJsonWithin (calls : ℕ) (t : Tree) : Option Json := foldWithin jsonNode calls t

theorem toJsonWithin_eq {calls : ℕ} {t : Tree} (h : t.height ≤ calls) :
    t.toJsonWithin calls = some t.toJson := by
  rw [toJsonWithin, foldWithin_eq, if_pos h, toJson_eq_fold]

end Tree

namespace Format

/-! ## Tags -/

namespace Tag

/-- The element of a node at a level, with those of its children. -/
def nodeElement (t : Tree) (inner : List (ℕ → String)) (level : ℕ) : String :=
  let below := (inner.map fun element => element (level + 1)).foldr (· ++ ·) ""
  if t.isRoot then margin level ++ opening t ++ "\n" ++ below ++ margin level ++ closing t
  else if t.isLeaf then margin level ++ opening t ++ escape t.text ++ closing t
  else margin level ++ opening t ++ escape t.text ++ "\n" ++ below ++ margin level ++ closing t

mutual

theorem element_eq_fold : ∀ (t : Tree) (level : ℕ), element level t = Tree.fold nodeElement t level
  | .node rule span text cs, level => by
    rw [element, Tree.fold, nodeElement, elements_eq_folds cs]
    rfl

theorem elements_eq_folds : ∀ (ts : List Tree) (level : ℕ), elements level ts =
    ((Tree.folds nodeElement ts).map fun element => element level).foldr (· ++ ·) ""
  | [], level => by rw [elements, Tree.folds]; rfl
  | t :: ts, level => by
    rw [elements, Tree.folds, List.map_cons, List.foldr_cons, element_eq_fold t,
      elements_eq_folds ts]

end

/-- The document of a tree, if at most `calls` elements stand inside one another. -/
def renderWithin (calls : ℕ) (t : Tree) : Option String :=
  (Tree.foldWithin nodeElement calls t).map fun element => element 0

theorem renderWithin_eq {calls : ℕ} {t : Tree} (h : t.height ≤ calls) :
    renderWithin calls t = some (render t) := by
  rw [renderWithin, Tree.foldWithin_eq, if_pos h, Option.map_some, render, element_eq_fold]

end Tag

/-! ## Indented lines -/

namespace Treeviz

/-- The lines of siblings that are behind a margin, the last of them as the last one. -/
def siblingLines (margin : String) : List (String → Bool → String) → String
  | [] => ""
  | [lines] => lines margin true
  | lines :: others => lines margin false ++ siblingLines margin others

/-- The lines of a node behind a margin, with those of its children. -/
def nodeBlock (options : Options) (t : Tree) (inner : List (String → Bool → String))
    (margin : String) (last : Bool) : String :=
  margin ++ connector last ++ label options t ++ "\n" ++ siblingLines (margin ++ indent last) inner

mutual

theorem nodeLines_eq_fold (options : Options) : ∀ (t : Tree) (margin : String) (last : Bool),
    nodeLines options margin last t = Tree.fold (nodeBlock options) t margin last
  | .node rule span text cs, margin, last => by
    rw [nodeLines, Tree.fold, nodeBlock, childrenLines_eq_folds options cs]

theorem childrenLines_eq_folds (options : Options) : ∀ (ts : List Tree) (margin : String),
    childrenLines options margin ts = siblingLines margin (Tree.folds (nodeBlock options) ts)
  | [], margin => by rw [childrenLines, Tree.folds, siblingLines]
  | [t], margin => by
    rw [childrenLines, Tree.folds, Tree.folds, siblingLines, nodeLines_eq_fold options t]
  | t :: u :: us, margin => by
    rw [childrenLines_cons, nodeLines_eq_fold options t, childrenLines_eq_folds options (u :: us)]
    rfl

end

/-- The lines of a tree, if those of at most `calls` nodes, the root among them, are written inside
one another. -/
def renderWithin (options : Options) : ℕ → Tree → Option String
  | 0, _ => none
  | calls + 1, t => (t.children.mapM (Tree.foldWithin (nodeBlock options) calls)).map fun inner =>
      label options t ++ "\n" ++ siblingLines "" inner

theorem renderWithin_eq (options : Options) {calls : ℕ} {t : Tree} (h : t.height ≤ calls) :
    renderWithin options calls t = some (render options t) := by
  cases calls with
  | zero => exact absurd h (Nat.not_le_of_lt t.height_pos)
  | succ calls =>
    rw [renderWithin, Tree.mapM_foldWithin fun c _ => Tree.foldWithin_eq calls c,
      if_pos (Tree.height_le_iff.1 h), Option.map_some, render, childrenLines_eq_folds]

end Treeviz

end Format

/-! ## Trees that are built -/

namespace Builder

/-- A tree that is built has at most twice as many levels as searches may have, and two more. So
many calls inside one another are enough to write it in any format. -/
theorem nesting_le_of_build {b : Builder} {t : Tree} (h : b.build = .ok t) :
    t.height ≤ 2 * b.maxDepth + 2 ∧
      Format.Tag.renderWithin (2 * b.maxDepth + 2) t = some (Format.Tag.render t) ∧
      (∀ options, Format.Treeviz.renderWithin options (2 * b.maxDepth + 2) t =
        some (Format.Treeviz.render options t)) ∧
      t.toJsonWithin (2 * b.maxDepth + 2) = some t.toJson := by
  have hheight := height_le_of_build h
  exact ⟨hheight, Format.Tag.renderWithin_eq hheight,
    fun options => Format.Treeviz.renderWithin_eq options hheight, Tree.toJsonWithin_eq hheight⟩

/-- Texts that are explained by a repetition, and their items by two letters without a name. -/
def layered : Grammar :=
  ⟨[⟨"row", .repetition "item" 1 none⟩, ⟨"item", .literal "xy"⟩,
    ⟨"letters", .composition [.literal "x", .literal "y"]⟩]⟩

/-- One level of searches can give four levels of nodes. -/
theorem nesting_le_of_build_layered : ∃ c t, layered.compile = .ok c ∧
    (Builder.mk c "xy" 1).build = .ok t ∧ 3 < t.height ∧ t.height ≤ 4 ∧
      Format.Tag.renderWithin 4 t = some (Format.Tag.render t) := by
  have hrun : layered.compile.toOption.any fun c : CompiledGrammar =>
      decide (((∀ n < (2 : ℕ), (Builder.mk c "xy" 1).Fits n) ∧
        ((Builder.mk c "xy" 1).stateAfter 2).2.isEmpty) ∧
          3 < (((Builder.mk c "xy" 1).stateAfter 2).1.toTree rootRule "xy").levels) := by
    decide +kernel
  obtain ⟨c, hc, hrun⟩ := Grammar.exists_ok_of_any hrun
  obtain ⟨⟨hfits, hend⟩, hlevels⟩ := of_decide_eq_true hrun
  have ht := build_eq_ok_iff.2 ⟨2, hfits, List.isEmpty_iff.1 hend, rfl⟩
  obtain ⟨hheight, htags, -⟩ := nesting_le_of_build ht
  exact ⟨c, _, hc, ht, Tree.height_eq_levels _ ▸ hlevels, hheight, htags⟩

end Builder

end PatternGrammar
