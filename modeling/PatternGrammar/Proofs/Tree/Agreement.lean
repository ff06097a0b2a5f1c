import PatternGrammar.Proofs.Tree.Growth
import PatternGrammar.Proofs.Tree.Recursion

/-!
# The work and the recursion agree

Working off a search from the top of the stack, with all that it leads to, gives the node that the
matches go below the trees of the recursion, or the error of the recursion. In between, the nodes of
all matches and of their explanations are in the arena before the first of the deeper searches has
its turn; what such a search adds later becomes part of their trees (`Builder.Plants`).

Main results:

* `Builder.follows_search`: a search that has its turn follows the recursion.
* `Builder.build_agrees`: the tree or the error of the work is that of the recursion.
-/

namespace PatternGrammar.Builder

open PatternGrammar.Text (Span slice wholeSpan)
open PatternGrammar.Arena (Gains)
open Recursion (Failure attach descend hits inside)

/-! ## Searches on top of the stack -/

/-- The trees that a node gains where no other one does. -/
def gainAt (node : Option ℕ) (trees : List Tree) (x : Option ℕ) : List Tree :=
  if node = x then trees else []

theorem gainAt_append (node : Option ℕ) (ts us : List Tree) (x : Option ℕ) :
    gainAt node (ts ++ us) x = gainAt node ts x ++ gainAt node us x := by
  unfold gainAt
  split <;> simp

theorem gainAt_self (node : Option ℕ) (trees : List Tree) : gainAt node trees node = trees :=
  if_pos rfl

theorem gainAt_of_ne {node x : Option ℕ} (h : node ≠ x) (trees : List Tree) :
    gainAt node trees x = [] :=
  if_neg h

theorem gainAt_nil (node : Option ℕ) : gainAt node [] = fun _ => [] := by
  funext x
  unfold gainAt
  split <;> rfl

/-- A node that is there is none of those that are added later. -/
theorem gainAt_of_le {a : Arena} {node : Option ℕ} (hnode : a.Has node) (trees : List Tree) {id : ℕ}
    (hid : a.nextId ≤ id) : gainAt node trees (some id) = [] :=
  gainAt_of_ne (fun heq => absurd (hnode id heq) (Nat.not_lt.2 hid)) trees

/-- What working off the searches on top of the stack comes to: trees that nodes of the arena `base`
gain, after which the rest of the stack is worked off, or the error. -/
inductive Comes (b : Builder) (base a : Arena) (searches : List Search) :
    Except Failure (Option ℕ → List Tree) → Prop where
  | done {a' : Arena} {gain : Option ℕ → List Tree} (hgains : Gains b.input base a' gain)
    (hrun : ∀ rest, b.run a (searches ++ rest) = b.run a' rest) : Comes b base a searches (.ok gain)
  | tooDeep {e : DepthExceeded} (hrun : ∀ rest, b.run a (searches ++ rest) = .error e) :
    Comes b base a searches (.error (.tooDeep e))

/-- The searches come to this from any arena that has come from the given one. -/
def Yields (b : Builder) (a : Arena) (searches : List Search)
    (result : Except Failure (Option ℕ → List Tree)) : Prop :=
  ∀ a', a'.Sound → Grows a a' → b.Comes a' a' searches result

variable {b : Builder} {a a' a'' : Arena} {searches searches' : List Search}

theorem Yields.mono {result : Except Failure (Option ℕ → List Tree)}
    (h : b.Yields a searches result) (hgrows : Grows a a') : b.Yields a' searches result :=
  fun a'' hsound hgrows' => h a'' hsound (hgrows.trans hgrows')

theorem yields_nil (b : Builder) (a : Arena) : b.Yields a [] (.ok fun _ => []) :=
  fun _ ha' _ => .done (.refl ha') fun _ => rfl

/-- What is gained by two rows of searches, or the error of the first one that fails. -/
def joined (result result' : Except Failure (Option ℕ → List Tree)) :
    Except Failure (Option ℕ → List Tree) :=
  result.bind fun gain => result'.map fun gain' x => gain x ++ gain' x

/-- Searches that are worked off one after another. What the first ones lead to is finished when the
others have their turn, and nothing is added to it any more. -/
theorem Yields.append {result result' : Except Failure (Option ℕ → List Tree)}
    (h : b.Yields a searches result) (h' : b.Yields a searches' result')
    (haway : ∀ gain, result' = .ok gain → ∀ id, a.nextId ≤ id → gain (some id) = []) :
    b.Yields a (searches ++ searches') (joined result result') := by
  intro a' ha' hgrows
  cases h a' ha' hgrows with
  | tooDeep hrun =>
    refine .tooDeep fun rest => ?_
    rw [List.append_assoc, hrun]
  | done hgains hrun =>
    cases h' _ hgains.sound (hgrows.trans (hgains.grows ha')) with
    | tooDeep hrun' =>
      refine .tooDeep fun rest => ?_
      rw [List.append_assoc, hrun, hrun']
    | done hgains' hrun' =>
      refine .done (hgains.trans hgains' fun id hid _ => ?_) fun rest => ?_
      · exact haway _ rfl id (Nat.le_trans hgrows.nextId_le hid)
      · rw [List.append_assoc, hrun, hrun']

/-- Searches whose matches all go below one node, each of which follows the recursion. -/
theorem yields_row {go : CompiledRule × Span → Except Failure (List Tree)}
    {search : CompiledRule × Span → Search} {node : Option ℕ} {jobs : List (CompiledRule × Span)}
    (hnode : a.Has node)
    (hjobs : ∀ job ∈ jobs, b.Yields a [search job] ((go job).map (gainAt node))) :
    b.Yields a (jobs.map search) ((jobs.mapM go).map fun trees => gainAt node trees.flatten) := by
  induction jobs with
  | nil =>
    have hnil := yields_nil b a
    rw [← gainAt_nil node] at hnil
    exact hnil
  | cons job jobs ih =>
    obtain ⟨hjob, hjobs⟩ := List.forall_mem_cons.1 hjobs
    have hboth := hjob.append (ih hjobs) fun gain hgain id hid => by
      obtain ⟨trees, -, rfl⟩ := exists_ok_of_map hgain
      exact gainAt_of_le hnode _ hid
    have hjoined : joined ((go job).map (gainAt node))
        ((jobs.mapM go).map fun trees => gainAt node trees.flatten) =
          ((job :: jobs).mapM go).map fun trees => gainAt node trees.flatten := by
      rw [List.mapM_cons]
      cases go job with
      | error failure => rfl
      | ok trees =>
        cases jobs.mapM go with
        | error failure => rfl
        | ok more =>
          refine congrArg Except.ok (funext fun x => ?_)
          exact (gainAt_append node trees more.flatten x).symm
    rw [hjoined] at hboth
    exact hboth

/-! ## Nodes of matches -/

/-- Both fail with the same error, or they succeed with results that are related. -/
inductive Alike {ε α β : Type} (R : α → β → Prop) : Except ε α → Except ε β → Prop where
  | ok {x : α} {y : β} (h : R x y) : Alike R (.ok x) (.ok y)
  | error {e : ε} : Alike R (.error e) (.error e)

/-- Children of `parent` were added. `gain` is what the searches that wait because of them are going to
add, below new nodes only; once it is there, the new children of `parent` are the given trees. -/
structure Plants (input : String) (a a' : Arena) (parent : Option ℕ)
    (gain : Option ℕ → List Tree) (trees : List Tree) : Prop where
  below : ∀ x, a.Has x → gain x = []
  above : ∀ id, a'.nextId ≤ id → gain (some id) = []
  absorb : ∀ a'' gain', Gains input a' a'' gain' →
    (∀ id, a.nextId ≤ id → id < a'.nextId → gain' (some id) = gain (some id)) →
    Gains input a a'' fun x => gainAt parent trees x ++ gain' x

variable {input : String} {parent : Option ℕ} {gain gain' : Option ℕ → List Tree}
  {trees trees' : List Tree}

theorem plants_nil (input : String) (a : Arena) (parent : Option ℕ) :
    Plants input a a parent (fun _ => []) [] := by
  refine ⟨fun _ _ => rfl, fun _ _ => rfl, fun a'' gain' hgains _ => hgains.congr fun x _ => ?_⟩
  rw [gainAt_nil parent, List.nil_append]

/-- A node whose children are what waits because of it. -/
theorem plants_push (ha : a.Sound) (hparent : a.Has parent) (r : Rule) (span : Span)
    (trees : List Tree) :
    Plants input a (a.push parent r span) parent (gainAt (some a.nextId) trees)
      [.node r span (slice input span) trees] := by
  have hnode : (a.push parent r span).Has (some a.nextId) := lt_nextId_push a parent r span
  refine ⟨fun x hx => gainAt_of_ne (Arena.ne_nextId hx).symm trees,
    fun id hid => gainAt_of_le hnode trees hid, fun a'' gain' hgains hgain => ?_⟩
  have hself : gain' (some a.nextId) = trees := by
    rw [hgain _ (Nat.le_refl _) (Arena.has_some.1 hnode), gainAt_self]
  have habsorb := hgains.absorb ha hparent
  rwa [hself] at habsorb

/-- A node around children that were added below it. -/
theorem Plants.nest (ha : a.Sound) (hparent : a.Has parent) {r : Rule} {span : Span}
    (h : Plants input (a.push parent r span) a' (some a.nextId) gain trees)
    (hgrows : Grows (a.push parent r span) a') :
    Plants input a a' parent gain [.node r span (slice input span) trees] := by
  have hnext := Arena.nextId_push a parent r span
  have hle := hgrows.nextId_le
  have hself : gain (some a.nextId) = [] :=
    h.below _ (Arena.has_some.2 (by omega))
  refine ⟨fun x hx => h.below x (Arena.has_push parent r span hx), h.above, ?_⟩
  intro a'' gain' hgains hgain
  have hinner := h.absorb a'' gain' hgains fun id hlow hhigh => hgain id (by omega) hhigh
  -- nothing that waits adds children to the outer node itself
  have hchildren : gainAt (some a.nextId) trees (some a.nextId) ++ gain' (some a.nextId) =
      trees := by
    rw [gainAt_self, hgain _ (Nat.le_refl _) (by omega), hself, List.append_nil]
  have habsorb := hinner.absorb ha hparent
  rw [hchildren] at habsorb
  refine habsorb.congr fun x hx => ?_
  rw [gainAt_of_ne (Arena.ne_nextId hx).symm, List.nil_append]
  rfl

/-- Children of the same node that were added one after another. -/
theorem Plants.append (hparent : a.Has parent) (h : Plants input a a' parent gain trees)
    (h' : Plants input a' a'' parent gain' trees') (hgrows : Grows a a') (hgrows' : Grows a' a'') :
    Plants input a a'' parent (fun x => gain x ++ gain' x) (trees ++ trees') := by
  have hle := hgrows.nextId_le
  have hle' := hgrows'.nextId_le
  refine ⟨fun x hx => ?_, fun id hid => ?_, ?_⟩
  · rw [h.below x hx, h'.below x (hx.mono hle), List.append_nil]
  · rw [h.above id (by omega), h'.above id hid, List.append_nil]
  · intro last total hgains htotal
    -- the later nodes first: to the earlier ones their trees are children that the parent gains
    have hlater := h'.absorb last total hgains fun id hlow hhigh => by
      rw [htotal id (by omega) hhigh, h.above id hlow, List.nil_append]
    have hall := h.absorb last _ hlater fun id hlow hhigh => by
      rw [gainAt_of_le hparent _ hlow, htotal id hlow (by omega), h'.below _ (Arena.has_some.2 hhigh),
        List.nil_append, List.append_nil]
    refine hall.congr fun x _ => ?_
    rw [gainAt_append, List.append_assoc]

/-- Nodes were added for matches of a search, and the searches that wait because of them come to
what the recursion gives for these matches. -/
structure Planted (b : Builder) (a a' : Arena) (parent : Option ℕ) (searches : List Search)
    (result : Except Failure (List Tree)) : Prop where
  sound : a'.Sound
  grows : Grows a a'
  yields : ∃ gains, b.Yields a' searches gains ∧
    Alike (fun gain trees => Plants b.input a a' parent gain trees) gains result

/-- A node whose children, or those of its explanation, are what waits because of it. -/
theorem planted_of_yields {below : Except Failure (List Tree)} {node : Option ℕ}
    {tree : List Tree → Tree} (ha' : a'.Sound) (hgrows : Grows a a')
    (hyields : b.Yields a' searches (below.map (gainAt node)))
    (hplants : ∀ trees, Plants b.input a a' parent (gainAt node trees) [tree trees]) :
    b.Planted a a' parent searches ((below.map tree).map fun t => [t]) := by
  refine ⟨ha', hgrows, _, hyields, ?_⟩
  cases below with
  | error failure => exact .error
  | ok trees => exact .ok (hplants trees)

/-- A node that stays a leaf. -/
theorem planted_leaf (ha : a.Sound) (hparent : a.Has parent) (r : Rule) (m : Span) :
    b.Planted a (a.push parent r m) parent [] (.ok [.node r m (slice b.input m) []]) := by
  have hplants := @plants_push a b.input parent ha hparent r m []
  rw [gainAt_nil] at hplants
  exact ⟨ha.push hparent r m, grows_push ha parent r m, _, yields_nil b _, .ok hplants⟩

/-- The node of one match and then those of others. -/
theorem Planted.cons {first : Except Failure Tree} {others : Except Failure (List Tree)}
    (hparent : a.Has parent) (h : b.Planted a a' parent searches (first.map fun t => [t]))
    (h' : b.Planted a' a'' parent searches' others) :
    b.Planted a a'' parent (searches ++ searches') (do return (← first) :: (← others)) := by
  obtain ⟨gains, hyields, halike⟩ := h.yields
  obtain ⟨gains', hyields', halike'⟩ := h'.yields
  refine ⟨h'.sound, h.grows.trans h'.grows, joined gains gains', ?_, ?_⟩
  · refine (hyields.mono h'.grows).append hyields' fun gain hgain id hid => ?_
    subst hgain
    cases halike' with
    | ok hplants => exact hplants.above id hid
  · cases first with
    | error failure =>
      cases halike
      exact .error
    | ok t =>
      cases halike with
      | ok hplants =>
        cases halike' with
        | error => exact .error
        | ok hplants' => exact .ok (hplants.append hparent hplants' h.grows h'.grows)

/-- What was planted comes to what the recursion gives. -/
theorem Planted.comes {result : Except Failure (List Tree)}
    (h : b.Planted a a' parent searches result) :
    b.Comes a a' searches (result.map (gainAt parent)) := by
  obtain ⟨gains, hyields, halike⟩ := h.yields
  cases halike with
  | error =>
    cases hyields a' h.sound (.refl a') with
    | tooDeep hrun => exact .tooDeep hrun
  | ok hplants =>
    cases hyields a' h.sound (.refl a') with
    | done hgains hrun =>
      have habsorb := hplants.absorb _ _ hgains fun _ _ _ => rfl
      refine .done (habsorb.congr fun x hx => ?_) hrun
      rw [hplants.below x hx, List.append_nil]

/-! ## Turns -/

/-- Searches at this level that have their turn follow the recursion. -/
def Follows (b : Builder) (depth : ℕ)
    (go : List (String × Span) → CompiledRule → Span → Except Failure (List Tree)) : Prop :=
  ∀ (a : Arena) (node : Option ℕ) (r : CompiledRule) (span : Span), a.Sound → a.Has node →
    r ∈ b.grammar.rules → span.InRange b.input →
      b.Comes a a [⟨node, span, r.rule, depth⟩] ((go (a.keys node) r span).map (gainAt node))

theorem explanation_eq (b : Builder) (rule : Rule) (span : Span) :
    b.explanation rule span = b.grammar.explain (slice b.input span) rule.name := by
  unfold explanation
  cases h : b.grammar.explain (slice b.input span) rule.name with
  | none => rfl
  | some e =>
    rw [Option.filter_some, if_pos]
    simpa using CompiledGrammar.groups_ne_nil_of_explain h

section

variable {source : String} {g : Grammar} (hparse : Grammar.parse source = .ok g)
  (hcompile : g.compile = .ok b.grammar) {depth : ℕ}
  {go : List (String × Span) → CompiledRule → Span → Except Failure (List Tree)}

include hparse hcompile

/-- What an explanation leads to follows the recursion. -/
theorem yields_descend (hgo : b.Follows (depth + 1) go) {rule : Rule} {m : Span} {e : Explanation}
    {node : Option ℕ} (hm : m.InRange b.input) (he : b.explanation rule m = some e)
    (hnode : a.Has node) :
    b.Yields a (b.searchesOf e node m depth)
      ((descend b.grammar go (a.keys node) e m).map (gainAt node)) := by
  obtain ⟨order, hc⟩ := Grammar.exists_order_of_compile hcompile
  have hexplain := he
  rw [explanation_eq] at hexplain
  obtain ⟨jobs, hinside, hparts, hrules⟩ :=
    Recursion.inside_eq hparse hcompile hexplain hm.le
  have hjobs : ∀ job ∈ jobs, b.Yields a [⟨node, job.2, job.1.rule, depth + 1⟩]
      ((go (a.keys node) job.1 job.2).map (gainAt node)) := by
    intro job hjob a' ha' hgrows
    have hpart : (job.1.rule, job.2) ∈ b.parts e m := hparts ▸ List.mem_map_of_mem hjob
    have hrange := (inRange_of_mem_parts hc.compiled hm he hpart).1
    have hcomes := hgo a' node job.1 job.2 ha' (hnode.mono hgrows.nextId_le) (hrules job hjob) hrange
    rwa [hgrows.keys_eq node hnode] at hcomes
  have hrow := yields_row hnode hjobs
  rw [searchesOf_eq, hparts, List.map_map, Recursion.descend_eq hinside]
  cases htrees : jobs.mapM fun job => go (a.keys node) job.1 job.2 with
  | error failure =>
    rw [htrees] at hrow
    exact hrow
  | ok trees =>
    rw [htrees] at hrow
    exact hrow

/-- The node of a match and what explains it. -/
theorem planted_match (hgo : b.Follows (depth + 1) go) (ha : a.Sound) (hparent : a.Has parent)
    {r : CompiledRule} {m : Span} (hm : m.InRange b.input) :
    b.Planted a (b.explain (a.push parent r.rule m) (some a.nextId) r.rule m depth).1 parent
      (b.explain (a.push parent r.rule m) (some a.nextId) r.rule m depth).2
      ((attach b.grammar b.input go (a.keys parent) r m).map fun t => [t]) := by
  have hpush := ha.push hparent r.rule m
  have hgrows := grows_push ha parent r.rule m
  have hnode : (a.push parent r.rule m).Has (some a.nextId) := lt_nextId_push a parent r.rule m
  have hkeys : (a.push parent r.rule m).keys (some a.nextId) = (r.rule.name, m) :: a.keys parent :=
    keys_push_self ha hparent r.rule m
  rw [explain_eq, explanation_eq]
  cases he : b.grammar.explain (slice b.input m) r.rule.name with
  | none =>
    rw [Recursion.attach_unexplained he]
    exact planted_leaf ha hparent r.rule m
  | some e =>
    have hexplanation := (b.explanation_eq r.rule m).trans he
    dsimp only
    by_cases hown : e.rule.name = r.rule.name
    · have hyields := yields_descend hparse hcompile hgo hm hexplanation hnode
      rw [hkeys] at hyields
      rw [if_pos (beq_iff_eq.2 hown), Recursion.attach_own he hown]
      exact planted_of_yields hpush hgrows hyields (plants_push ha hparent r.rule m)
    · rw [if_neg (mt beq_iff_eq.1 hown)]
      by_cases hpath : (a.push parent r.rule m).onPath (some a.nextId) e.rule.name m = true
      · rw [if_pos hpath]
        rw [Arena.onPath_iff, hkeys] at hpath
        rw [Recursion.attach_covered he hown hpath]
        exact planted_leaf ha hparent r.rule m
      · rw [if_neg hpath]
        rw [Arena.onPath_iff, hkeys] at hpath
        have hpush' := hpush.push hnode e.rule m
        have hgrows' := grows_push hpush (some a.nextId) e.rule m
        have hyields := yields_descend hparse hcompile hgo hm hexplanation
          (lt_nextId_push (a.push parent r.rule m) (some a.nextId) e.rule m)
        rw [keys_push_self hpush hnode, hkeys] at hyields
        rw [Recursion.attach_other he hown hpath]
        refine planted_of_yields hpush' (hgrows.trans hgrows') hyields fun trees => ?_
        exact (plants_push hpush hnode e.rule m trees).nest ha hparent hgrows'

/-- The nodes of the matches of a search. -/
theorem planted_matches (hgo : b.Follows (depth + 1) go) (ha : a.Sound) (hparent : a.Has parent)
    {r : CompiledRule} {outer : Span} {spans : List Span} (hspans : ∀ m ∈ spans, m.InRange b.input) :
    b.Planted a (b.addMatches ⟨parent, outer, r.rule, depth⟩ a spans).1 parent
      (b.addMatches ⟨parent, outer, r.rule, depth⟩ a spans).2
      (spans.mapM fun m => attach b.grammar b.input go (a.keys parent) r m) := by
  induction spans generalizing a with
  | nil =>
    exact ⟨ha, .refl a, _, yields_nil b a, .ok (plants_nil b.input a parent)⟩
  | cons m spans ih =>
    obtain ⟨hm, hspans⟩ := List.forall_mem_cons.1 hspans
    have hfirst := planted_match hparse hcompile hgo ha hparent (r := r) hm
    have hothers := ih hfirst.sound (hparent.mono hfirst.grows.nextId_le) hspans
    rw [hfirst.grows.keys_eq parent hparent] at hothers
    rw [List.mapM_cons]
    exact hfirst.cons hparent hothers

end

/-- A search that is allowed comes to what its turn leads to. -/
theorem Comes.of_turn {s : Search} {result : Except Failure (Option ℕ → List Tree)}
    (h : b.Comes a (b.step a s).1 (b.step a s).2 result) (hfits : ¬b.maxDepth < s.depth) :
    b.Comes a a [s] result := by
  have hturn : ∀ rest, b.run a ([s] ++ rest) = b.run (b.step a s).1 ((b.step a s).2 ++ rest) := by
    intro rest
    rw [List.singleton_append, run, if_neg hfits]
  cases h with
  | tooDeep hrun => exact .tooDeep fun rest => (hturn rest).trans (hrun rest)
  | done hgains hrun => exact .done hgains fun rest => (hturn rest).trans (hrun rest)

/-- The spans that a search finds are those of the recursion. -/
theorem found_eq_hits {order : List String} {g : Grammar} (hc : g.CompilesTo b.grammar order)
    {r : CompiledRule} (hr : r ∈ b.grammar.rules) (node : Option ℕ) (span : Span) (depth : ℕ) :
    b.found ⟨node, span, r.rule, depth⟩ = hits b.input r span := by
  unfold found
  rw [hc.find?_of_mem hr]
  rfl

/-- A search that has its turn follows the recursion. -/
theorem follows_search {source : String} {g : Grammar} (hparse : Grammar.parse source = .ok g)
    (hcompile : g.compile = .ok b.grammar) (depth : ℕ) :
    b.Follows depth fun path r span =>
      Recursion.search b.grammar b.input b.maxDepth depth path r span := by
  obtain ⟨order, hc⟩ := Grammar.exists_order_of_compile hcompile
  -- by the number of levels that are left, as the recursion goes
  induction hleft : b.maxDepth + 1 - depth using Nat.strongRecOn generalizing depth with
  | ind left ih =>
    intro a node r span ha hnode hr hspan
    dsimp only
    rw [Recursion.search]
    by_cases hdeep : b.maxDepth < depth
    · rw [dif_pos hdeep]
      refine .tooDeep fun rest => ?_
      rw [List.singleton_append, run, if_pos hdeep]
    · rw [dif_neg hdeep]
      have hgo := ih (b.maxDepth + 1 - (depth + 1)) (by omega) (depth + 1) rfl
      have hfound := found_eq_hits hc hr node span depth
      have hrange : ∀ m ∈ b.found ⟨node, span, r.rule, depth⟩, m.InRange b.input :=
        fun m hm => (inRange_of_mem_matchesIn hc.compiled hspan hm).1
      have hplanted := @planted_matches b a node source g hparse hcompile depth _ hgo ha hnode r
        span _ hrange
      rw [← hfound]
      exact Comes.of_turn (s := ⟨node, span, r.rule, depth⟩) hplanted.comes hdeep

/-! ## From the start -/

theorem rootStage?_eq (b : Builder) :
    b.rootStage? = (if b.input = "" then none else b.grammar.explain b.input "").map fun e =>
      ⟨rootRule, wholeSpan b.input, e⟩ := by
  rw [rootStage?, explanation_eq, Text.slice_eq_of_slice? (Text.slice?_whole b.input)]
  by_cases hempty : b.input = ""
  · simp [hempty]
  · rw [if_neg hempty, if_neg (by simpa using hempty)]
    rfl

/-- The work that the root leads to follows the recursion. -/
theorem comes_initial {source : String} {g : Grammar} (hparse : Grammar.parse source = .ok g)
    (hcompile : g.compile = .ok b.grammar) :
    b.Comes {} b.initial.1 b.initial.2
      ((Recursion.topLevel b.grammar b.input b.maxDepth).map (gainAt none)) := by
  have hfollows := follows_search hparse hcompile 1
  have hroot := b.rootStage?_eq
  rw [initial_eq]
  unfold Recursion.topLevel
  dsimp only
  cases he : (if b.input = "" then none else b.grammar.explain b.input "") with
  | none =>
    rw [he, Option.map_none] at hroot
    rw [hroot]
    have hcomes := hfollows {} none b.grammar.first (wholeSpan b.input) Arena.sound_empty
      (Arena.has_none {}) List.mem_cons_self (inRange_whole b)
    rw [Arena.keys_none] at hcomes
    exact hcomes
  | some e =>
    rw [he, Option.map_some] at hroot
    rw [hroot]
    have hother := rootNamed_of_parse hparse hcompile b.maxDepth _ hroot
    obtain ⟨-, -, hexplanation⟩ := explanation_of_rootStage? hroot
    dsimp only at hexplanation ⊢
    rw [hother]
    have hnone := Arena.has_none {}
    have hyields := yields_descend hparse hcompile hfollows (inRange_whole b) hexplanation
      (lt_nextId_push {} none e.rule (wholeSpan b.input))
    rw [keys_push_self Arena.sound_empty hnone, Arena.keys_none] at hyields
    have hplanted := planted_of_yields (Arena.sound_empty.push hnone e.rule (wholeSpan b.input))
      (grows_push Arena.sound_empty none e.rule (wholeSpan b.input)) hyields
      (plants_push Arena.sound_empty hnone e.rule (wholeSpan b.input))
    have hcomes := hplanted.comes
    rw [Text.slice_eq_of_slice? (Text.slice?_whole b.input)] at hcomes
    have hone : ∀ below : Except Failure (List Tree),
        (below.map (Tree.node e.rule (wholeSpan b.input) b.input)).map (fun t => [t]) =
          below.map fun trees => [Tree.node e.rule (wholeSpan b.input) b.input trees] := by
      intro below
      cases below <;> rfl
    rw [hone] at hcomes
    exact hcomes

/-- The work builds the tree of the recursion, and fails where the recursion is too deep. -/
theorem build_eq_recursion {source : String} {g : Grammar} (hparse : Grammar.parse source = .ok g)
    (hcompile : g.compile = .ok b.grammar) :
    Recursion.build b.grammar b.input b.maxDepth = b.build.mapError .tooDeep := by
  have hcomes := comes_initial hparse hcompile
  unfold Recursion.build
  cases htop : Recursion.topLevel b.grammar b.input b.maxDepth with
  | error failure =>
    rw [htop] at hcomes
    cases hcomes with
    | @tooDeep e hrun =>
      have hend := hrun []
      rw [List.append_nil] at hend
      rw [build, hend]
      rfl
  | ok trees =>
    rw [htop] at hcomes
    cases hcomes with
    | @done a' _ hgains hrun =>
      have hend := hrun []
      rw [List.append_nil, run] at hend
      obtain ⟨ids, hids, -, htrees⟩ := hgains.children none (Arena.has_none {})
      have hchildren : (a'.childrenOf none).map (a'.treeAt b.input) = trees := by
        rw [hids, List.map_append, htrees]
        exact gainAt_self none trees
      rw [build, hend]
      show _ = Except.ok (a'.toTree rootRule b.input)
      rw [hgains.sound.toTree_eq, hchildren]
      rfl

/-- For a grammar that is read from a source and compiles, any input and any limit: the tree that is
built is that of the recursion, the error that building fails with tells of the search that is the
first one to be too deep in the recursion, and the recursion never misses a rule or a group. -/
theorem build_agrees {source : String} {g : Grammar} {c : CompiledGrammar}
    (hparse : Grammar.parse source = .ok g) (hcompile : g.compile = .ok c) (input : String)
    (maxDepth : ℕ) :
    (∀ t, (Builder.mk c input maxDepth).build = .ok t ↔
      Recursion.build c input maxDepth = .ok t) ∧
    (∀ e, (Builder.mk c input maxDepth).build = .error e ↔
      Recursion.build c input maxDepth = .error (.tooDeep e)) ∧
    Recursion.build c input maxDepth ≠ .error .missing := by
  have hagree : Recursion.build c input maxDepth =
      (Builder.mk c input maxDepth).build.mapError .tooDeep :=
    build_eq_recursion (b := Builder.mk c input maxDepth) hparse hcompile
  rw [hagree]
  cases (Builder.mk c input maxDepth).build with
  | error e => simp [Except.mapError]
  | ok t => simp [Except.mapError]

theorem build_agrees_pairs : ∃ c t, Grammar.parse Grammar.pairs.text = .ok Grammar.pairs ∧
    Grammar.pairs.compile = .ok c ∧
    (Builder.mk c "a=b" 19).build = .ok t ∧ Recursion.build c "a=b" 19 = .ok t ∧
    (Builder.mk c "a=b" 0).build = .error ⟨0, "key", ⟨0, 1⟩⟩ ∧
    Recursion.build c "a=b" 0 = .error (.tooDeep ⟨0, "key", ⟨0, 1⟩⟩) := by
  have hparse : Grammar.parse Grammar.pairs.text = .ok Grammar.pairs := by decide +kernel
  have hfirst : Grammar.pairs.compile.toOption.any fun c : CompiledGrammar =>
      ((Builder.mk c "a=b" 0).stateAfter 0).2.head?.any fun s =>
        decide ((Builder.mk c "a=b" 0).maxDepth < s.depth ∧ s.rule.name = "key" ∧
          s.span = ⟨0, 1⟩) := by decide +kernel
  obtain ⟨c, hc, hfirst⟩ := Grammar.exists_ok_of_any hfirst
  obtain ⟨s, hs, hsearch⟩ := (Option.any_eq_true _ _).1 hfirst
  obtain ⟨hdeep, hrule, hspan⟩ := of_decide_eq_true hsearch
  have herror : (Builder.mk c "a=b" 0).build = .error ⟨0, "key", ⟨0, 1⟩⟩ := by
    have hfits : ∀ n < 0, (Builder.mk c "a=b" 0).Fits n := by simp
    rw [(build_eq_of_fits hfits).2 s hs hdeep, hrule, hspan]
  obtain ⟨order, hcompiles⟩ := Grammar.exists_order_of_compile hc
  have hlimit : depthBound Grammar.pairs "a=b" ≤ 19 := by decide
  obtain ⟨t, ht⟩ := exists_build_eq_ok
    (fits_of_depthBound_le (b := Builder.mk c "a=b" 19) hcompiles hlimit)
  refine ⟨c, t, hparse, hc, ht, ((build_agrees hparse hc "a=b" 19).1 t).1 ht, herror, ?_⟩
  exact ((build_agrees hparse hc "a=b" 0).2.1 _).1 herror

end PatternGrammar.Builder
