import PatternGrammar.Format.Treeviz
import PatternGrammar.Proofs.Format.Comparison
import PatternGrammar.Proofs.Text.Lines
import PatternGrammar.Proofs.Tree.Places

/-!
# Reading trees off their indented lines

Escaped texts hold no line break, whatever is cut off, so that each node has one line, in pre-order.
What stands in front of the label of a node is known from the nodes on the way to it: a bar or a
blank for each of them that is above the node and below the root, by whether siblings come after it,
and a corner or a branch for the node itself (`lead`). So the lines of a row of siblings end where
the next line has fewer columns in front of its corner, and the tree can be read off its lines.

Main results:

* `toList_render`: the lines of a tree.
* `childrenLines_append_inj`: a row of siblings is known from its lines.
* `render_draws`: the lines show the place of each node, and from them the shape of the tree and the
  names and shapes of its rules are known, and its spans where lines show them.
-/

namespace PatternGrammar

open PatternGrammar.Text (Span isName isNameChar)

/-! ## Escaped texts -/

namespace Text

theorem ne_newline_of_mem_hexText {n : ℕ} {c : Char} (h : c ∈ hexText n) : c ≠ '\n' := by
  have hdigit : ∀ d < 16, Nat.digitChar d ≠ '\n' := by decide
  rw [hexText] at h
  induction n using Nat.strongRecOn with
  | ind n ih =>
    by_cases hn : n < 16
    · rw [Nat.toDigits_of_lt_base hn, List.mem_singleton] at h
      exact h ▸ hdigit n hn
    · rw [Nat.toDigits_of_base_le (by decide) (Nat.not_lt.1 hn), List.mem_append,
        List.mem_singleton] at h
      rcases h with h | rfl
      · exact ih (n / 16) (by omega) h
      · exact hdigit _ (Nat.mod_lt _ (by decide))

theorem newline_not_mem_escapeChar (options : EscapeOptions) (c : Char) :
    '\n' ∉ escapeChar options c := by
  have hcode : '\n' ∉ codePointEscape c := by
    intro h
    rw [codePointEscape, List.mem_append, List.mem_append] at h
    rcases h with (h | h) | h
    · exact absurd h (by decide)
    · exact ne_newline_of_mem_hexText h rfl
    · exact absurd h (by decide)
  unfold escapeChar
  split_ifs with h0 ht hr hn
  any_goals exact hcode
  any_goals decide
  exact fun h => hn (List.mem_singleton.1 h).symm

theorem newline_not_mem_escapeText (cs : List Char) : '\n' ∉ escapeText cs := by
  cases cs with
  | nil => exact List.not_mem_nil
  | cons c cs =>
    intro h
    rcases List.mem_append.1 h with h | h
    · exact newline_not_mem_escapeChar _ c h
    · obtain ⟨d, -, h⟩ := List.mem_flatMap.1 h
      exact newline_not_mem_escapeChar _ d h

end Text

namespace Format.Treeviz

variable {options : Options}

/-! ## Labels -/

/-- What a label shows behind the name. -/
def details (options : Options) (t : Tree) : List Char :=
  (if options.showSpans then t.span.text.toList ++ [' '] else []) ++
    '"' :: (cut options.truncate (Text.escapeText t.text.toList) ++ ['"'])

theorem toList_label (options : Options) (t : Tree) :
    (label options t).toList =
      (icon t).toList ++ ' ' :: ((shownName t).toList ++ ' ' :: details options t) := by
  unfold label details
  cases options.showSpans <;> simp

theorem newline_not_mem_cut (limit : ℕ) {cs : List Char} (h : '\n' ∉ cs) : '\n' ∉ cut limit cs := by
  unfold cut
  split
  · rw [List.mem_append, not_or]
    exact ⟨fun hmem => h (List.mem_of_mem_take hmem), by decide⟩
  · exact h

theorem newline_not_mem_details (options : Options) (t : Tree) : '\n' ∉ details options t := by
  have hspan : '\n' ∉ t.span.text.toList := by
    rw [Span.toList_text]
    intro h
    rcases List.mem_append.1 h with h | h
    · exact absurd (Text.isDigit_of_mem_toString _ h) (by decide)
    · have h := (List.mem_cons.1 h).resolve_left (by decide)
      have h := (List.mem_cons.1 h).resolve_left (by decide)
      exact absurd (Text.isDigit_of_mem_toString _ h) (by decide)
  have htext := newline_not_mem_cut options.truncate
    (Text.newline_not_mem_escapeText t.text.toList)
  unfold details
  cases options.showSpans <;> simp [hspan, htext]

theorem length_icon (t : Tree) : (icon t).toList.length = 1 := by
  unfold icon
  split
  · rfl
  · split <;> rfl

theorem newline_not_mem_icon (t : Tree) : '\n' ∉ (icon t).toList := by
  unfold icon
  split
  · decide
  · split <;> decide

theorem shownName_of_isName {t : Tree} (h : isName t.ruleName.toList) :
    shownName t = t.ruleName := by
  rw [shownName, Tree.isRoot_of_isName h]
  rfl

/-- A label stands on one line. -/
theorem newline_not_mem_label {t : Tree} (h : t.isRoot ∨ isName t.ruleName.toList) :
    '\n' ∉ (label options t).toList := by
  have hname : '\n' ∉ (shownName t).toList := by
    rcases h with h | h
    · rw [shownName, if_pos h]
      decide
    · rw [shownName_of_isName h]
      exact fun hmem => absurd (Text.isNameChar_of_isName h _ hmem) (by decide)
  rw [toList_label]
  simp [newline_not_mem_icon, hname, newline_not_mem_details]

theorem getLast?_label (options : Options) (t : Tree) :
    (label options t).toList.getLast? = some '"' := by
  rw [toList_label, details]
  simp [List.getLast?_append, List.getLast?_cons]

/-! ## The lines of a tree -/

/-- What stands below a node that is not the root, by whether siblings come after it. -/
def cell (later : Bool) : String := if later then "│ " else "  "

/-- What stands in front of the label of a node, by whether siblings come after it. -/
def corner (later : Bool) : String := if later then "├─ " else "└─ "

/-- What a line begins with, by whether siblings come after each of the nodes on the way to its
node. -/
def lead : List Bool → String
  | [] => ""
  | [later] => corner later
  | later :: more => cell later ++ lead more

/-- The line of the node that a way leads to. -/
def line (options : Options) (t : Tree) (way : List ℕ) : String :=
  lead (t.laterSiblings way) ++ (t.at? way).elim "" (label options)

theorem lead_cons (later : Bool) {more : List Bool} (h : more ≠ []) :
    lead (later :: more) = cell later ++ lead more := by
  cases more with
  | nil => exact absurd rfl h
  | cons => rfl

theorem newline_not_mem_lead (flags : List Bool) : '\n' ∉ (lead flags).toList := by
  have hcell : ∀ later, '\n' ∉ (cell later).toList := by decide
  have hcorner : ∀ later, '\n' ∉ (corner later).toList := by decide
  induction flags with
  | nil => decide
  | cons later more ih =>
    cases more with
    | nil => exact hcorner later
    | cons =>
      rw [lead_cons later (List.cons_ne_nil _ _), String.toList_append, List.mem_append, not_or]
      exact ⟨hcell later, ih⟩

section

variable {t c : Tree} {front rest : List Tree}

theorem line_singleton (h : t.children = front ++ c :: rest) :
    line options t [front.length] = connector rest.isEmpty ++ label options c := by
  rw [line, Tree.laterSiblings_cons h, Tree.at?_cons h]
  cases rest <;> rfl

/-- The line of a node below a child is that for the child, moved to the right. -/
theorem line_cons (h : t.children = front ++ c :: rest) {way : List ℕ} (hway : way ≠ []) :
    line options t (front.length :: way) = indent rest.isEmpty ++ line options c way := by
  have hflags : c.laterSiblings way ≠ [] := by
    cases way with
    | nil => exact absurd rfl hway
    | cons => exact List.cons_ne_nil _ _
  rw [line, line, Tree.laterSiblings_cons h, Tree.at?_cons h, lead_cons _ hflags,
    String.append_assoc]
  cases rest <;> rfl

end

theorem ne_nil_of_mem_waysFrom {first : ℕ} {ts : List Tree} {way : List ℕ}
    (h : way ∈ Tree.waysFrom first ts) : way ≠ [] := by
  induction ts generalizing first with
  | nil => exact absurd h List.not_mem_nil
  | cons t ts ih =>
    rw [Tree.waysFrom, List.mem_append, List.mem_map] at h
    rcases h with ⟨_, -, rfl⟩ | h
    · exact List.cons_ne_nil _ _
    · exact ih h

/-- The lines of the children behind the first ones. -/
theorem toList_childrenLines : ∀ (rest : List Tree) {t : Tree} {front : List Tree}
    (_ : t.children = front ++ rest) (margin : String),
    (childrenLines options margin rest).toList =
      (Tree.waysFrom front.length rest).flatMap fun way =>
        (margin ++ line options t way).toList ++ ['\n']
  | [], _, _, _, _ => by
    rw [childrenLines, Tree.waysFrom]
    rfl
  | .node rule span text cs :: rest, t, front, h, margin => by
    have hbelow := @toList_childrenLines cs (.node rule span text cs) [] rfl
      (margin ++ indent rest.isEmpty)
    have hrest := @toList_childrenLines rest t (front ++ [.node rule span text cs])
      (by rw [h, List.append_assoc]; rfl) margin
    have hmoved : ∀ way ∈ Tree.waysFrom 0 cs,
        (margin ++ line options t (front.length :: way)).toList ++ ['\n'] =
          (margin ++ indent rest.isEmpty ++ line options (.node rule span text cs) way).toList ++
            ['\n'] := by
      intro way hway
      rw [line_cons h (ne_nil_of_mem_waysFrom hway), String.append_assoc]
    rw [List.length_append, List.length_singleton] at hrest
    rw [childrenLines_cons, String.toList_append, hrest, Tree.waysFrom, List.flatMap_append,
      Tree.ways, List.map_cons, List.flatMap_cons, List.flatMap_map, List.flatMap_congr hmoved,
      line_singleton h, nodeLines, String.toList_append, hbelow]
    simp

/-- The lines of a tree are those of its nodes in pre-order. -/
theorem toList_render (options : Options) (t : Tree) :
    (render options t).toList =
      (t.ways.map fun way => (line options t way).toList).flatMap (· ++ ['\n']) := by
  have hbelow := @toList_childrenLines options t.children t [] rfl ""
  rw [render, String.toList_append, hbelow, List.flatMap_map, Tree.ways_eq, List.flatMap_cons]
  simp [line, lead, Tree.laterSiblings, Tree.at?]

/-! ## Trees from their lines -/

/-- What lines show of a node: its name, the shape of its rule if it is not the root, and its span
if lines show spans. -/
structure Agree (options : Options) (t u : Tree) : Prop where
  name_eq : t.ruleName = u.ruleName
  kind_eq : t.isRoot = false → t.rule.description.kind = u.rule.description.kind
  span_eq : options.showSpans → t.span = u.span

theorem kind_eq_of_icon_eq {t u : Tree} (ht : t.isRoot = false) (hu : u.isRoot = false)
    (h : icon t = icon u) : t.rule.description.kind = u.rule.description.kind := by
  rw [icon, icon, ht, hu] at h
  cases hdt : t.rule.description <;> cases hdu : u.rule.description <;>
    simp_all [Description.kind]

theorem span_eq_of_details_eq {t u : Tree} (hspans : options.showSpans)
    (h : details options t = details options u) : t.span = u.span := by
  have hspace : Char.isDigit ' ' = false := rfl
  rw [details, details, if_pos hspans, if_pos hspans, List.append_assoc, List.append_assoc] at h
  exact (Span.text_append_inj (Text.stop_cons hspace) (Text.stop_cons hspace) h).1

/-- A node that is not the root is known from its label, as far as lines show it. -/
theorem agree_of_label_eq {t u : Tree} (ht : isName t.ruleName.toList)
    (hu : isName u.ruleName.toList) (h : (label options t).toList = (label options u).toList) :
    Agree options t u := by
  have hspace : isNameChar ' ' = false := rfl
  rw [toList_label, toList_label] at h
  obtain ⟨hicon, h⟩ := List.append_inj h (by rw [length_icon, length_icon])
  rw [shownName_of_isName ht, shownName_of_isName hu] at h
  obtain ⟨hname, h⟩ := Text.name_append_inj ht hu (Text.stop_cons hspace) (Text.stop_cons hspace)
    (List.cons.inj h).2
  exact ⟨hname, fun _ => kind_eq_of_icon_eq (Tree.isRoot_of_isName ht) (Tree.isRoot_of_isName hu)
    (String.toList_injective hicon), fun hspans =>
    span_eq_of_details_eq hspans (List.cons.inj h).2⟩

theorem agree_of_label_eq_of_isRoot {t u : Tree} (ht : t.isRoot) (hu : u.isRoot)
    (h : (label options t).toList = (label options u).toList) : Agree options t u := by
  have hicon : icon t = icon u := by rw [icon, icon, if_pos ht, if_pos hu]
  have hname : shownName t = shownName u := by rw [shownName, shownName, if_pos ht, if_pos hu]
  rw [toList_label, toList_label, hicon, hname] at h
  have hdetails := (List.cons.inj (List.append_cancel_left
    (List.cons.inj (List.append_cancel_left h)).2)).2
  refine ⟨?_, fun hroot => ?_, fun hspans => span_eq_of_details_eq hspans hdetails⟩
  · rw [beq_iff_eq.1 ht, beq_iff_eq.1 hu]
  · rw [ht] at hroot
    exact nomatch hroot

theorem label_append_inj {t u : Tree} (ht : t.isRoot ∨ isName t.ruleName.toList)
    (hu : u.isRoot ∨ isName u.ruleName.toList) {rest rest' : List Char}
    (h : (label options t).toList ++ '\n' :: rest = (label options u).toList ++ '\n' :: rest') :
    (label options t).toList = (label options u).toList ∧ rest = rest' := by
  have hline {t : Tree} (ht : t.isRoot ∨ isName t.ruleName.toList) :
      ∀ c ∈ (label options t).toList, decide (c ≠ '\n') = true := fun c hc =>
    decide_eq_true fun heq => newline_not_mem_label ht (heq ▸ hc)
  have hend {cs : List Char} : ∀ c ∈ ('\n' :: cs).head?, decide (c ≠ '\n') = false :=
    Text.stop_cons rfl
  obtain ⟨hlabel, h⟩ := Text.append_inj_of_stop (hline ht) hend (hline hu) hend h
  exact ⟨hlabel, (List.cons.inj h).2⟩

theorem connector_append_inj {last last' : Bool} {rest rest' : List Char}
    (h : (connector last).toList ++ rest = (connector last').toList ++ rest') :
    last = last' ∧ rest = rest' := by
  cases last <;> cases last'
  · exact ⟨rfl, List.append_cancel_left h⟩
  · exact absurd (List.cons.inj h).1 (by decide)
  · exact absurd (List.cons.inj h).1 (by decide)
  · exact ⟨rfl, List.append_cancel_left h⟩

/-- The text does not go on with a line that belongs below the margin. -/
def Stops (margin : String) (rest : List Char) : Prop :=
  ∀ c ∈ [' ', '├', '└'], ∀ more, rest ≠ margin.toList ++ c :: more

theorem toList_childrenLines_cons (margin : String) (t : Tree) (ts : List Tree)
    (rest : List Char) :
    (childrenLines options margin (t :: ts)).toList ++ rest =
      margin.toList ++ ((connector ts.isEmpty).toList ++ ((label options t).toList ++ '\n' ::
        ((childrenLines options (margin ++ indent ts.isEmpty) t.children).toList ++
          ((childrenLines options margin ts).toList ++ rest)))) := by
  obtain ⟨rule, span, text, cs⟩ := t
  rw [childrenLines_cons, nodeLines]
  simp [Tree.children]

theorem Stops.ne_childrenLines {margin : String} {rest : List Char} (h : Stops margin rest)
    (t : Tree) (ts : List Tree) (more : List Char) :
    rest ≠ (childrenLines options margin (t :: ts)).toList ++ more := by
  rw [toList_childrenLines_cons]
  cases ts.isEmpty
  · exact h '├' (by decide) _
  · exact h '└' (by decide) _

/-- The lines below a node stop where those of its later siblings begin. -/
theorem Stops.below {margin : String} {rest : List Char} (h : Stops margin rest)
    (ts : List Tree) :
    Stops (margin ++ indent ts.isEmpty) ((childrenLines options margin ts).toList ++ rest) := by
  intro c _ more heq
  rw [String.toList_append, List.append_assoc] at heq
  cases ts with
  | nil =>
    rw [childrenLines] at heq
    exact h ' ' (by decide) _ heq
  | cons u us =>
    rw [toList_childrenLines_cons, List.isEmpty_cons] at heq
    have hhead := List.append_cancel_left heq
    cases hlast : us.isEmpty <;> rw [hlast] at hhead <;>
      exact absurd (List.cons.inj hhead).1 (by decide)

/-- A row of siblings is known from its lines, where these stop. -/
theorem childrenLines_append_inj : ∀ (ts us : List Tree) {margin : String}
    {rest rest' : List Char}, (∀ t ∈ ts, t.Named) → (∀ u ∈ us, u.Named) →
      Stops margin rest → Stops margin rest' →
      (childrenLines options margin ts).toList ++ rest =
        (childrenLines options margin us).toList ++ rest' →
      List.Forall₂ (Tree.Alike (Agree options)) ts us ∧ rest = rest'
  | [], [], _, _, _, _, _, _, _, h => by
    rw [childrenLines] at h
    exact ⟨.nil, h⟩
  | [], u :: us, _, _, _, _, _, hrest, _, h => by
    rw [childrenLines] at h
    exact absurd h (hrest.ne_childrenLines u us _)
  | t :: ts, [], _, _, _, _, _, _, hrest', h => by
    rw [childrenLines] at h
    exact absurd h.symm (hrest'.ne_childrenLines t ts _)
  | .node rule span text cs :: ts, u :: us, margin, rest, rest', hts, hus, hrest, hrest', h => by
    obtain ⟨ht, hts⟩ := List.forall_mem_cons.1 hts
    obtain ⟨hu, hus⟩ := List.forall_mem_cons.1 hus
    obtain ⟨htname, hcs⟩ := Tree.named_iff.1 ht
    obtain ⟨huname, hds⟩ := Tree.named_iff.1 hu
    rw [toList_childrenLines_cons, toList_childrenLines_cons] at h
    obtain ⟨hlast, h⟩ := connector_append_inj (List.append_cancel_left h)
    obtain ⟨hlabel, h⟩ := label_append_inj (.inr htname) (.inr huname) h
    have hstops := @Stops.below options _ _ hrest ts
    rw [hlast] at hstops h
    obtain ⟨hchildren, h⟩ := childrenLines_append_inj cs u.children hcs hds hstops
      (hrest'.below us) h
    obtain ⟨hothers, h⟩ := childrenLines_append_inj ts us hts hus hrest hrest' h
    exact ⟨.cons (.intro (agree_of_label_eq htname huname hlabel) hchildren) hothers, h⟩

theorem alike_of_render_eq {t u : Tree} (ht : t.NamedBelow) (hu : u.NamedBelow)
    (h : render options t = render options u) : Tree.Alike (Agree options) t u := by
  have hsplit : ∀ t : Tree, (render options t).toList =
      (label options t).toList ++ '\n' :: (childrenLines options "" t.children).toList := by
    intro t
    simp [render]
  have hstops : Stops "" [] := fun _ _ _ heq => nomatch heq
  have hchars := congrArg String.toList h
  rw [hsplit, hsplit] at hchars
  obtain ⟨hlabel, hbelow⟩ := label_append_inj (.inl ht.root) (.inl hu.root) hchars
  obtain ⟨hchildren, -⟩ := @childrenLines_append_inj options t.children u.children "" [] []
    ht.below hu.below hstops hstops (by rw [hbelow])
  exact .intro (agree_of_label_eq_of_isRoot ht.root hu.root hlabel) hchildren

/-! ## Drawn trees -/

theorem isLine_line {t : Tree} (ht : t.NamedBelow) {way : List ℕ} (hway : way ∈ t.ways) :
    Lines.IsLine '\n' '\r' (line options t way).toList := by
  have hnode : t.at? way ∈ t.nodes.map some := Tree.map_at?_ways t ▸ List.mem_map_of_mem hway
  obtain ⟨n, hn, hat⟩ := List.mem_map.1 hnode
  rw [line, ← hat, Option.elim_some, String.toList_append]
  constructor
  · rw [List.mem_append, not_or]
    exact ⟨newline_not_mem_lead _, newline_not_mem_label (ht.isRoot_or_isName hn)⟩
  · rw [List.getLast?_append, getLast?_label]
    rintro c ⟨⟩
    decide

theorem split_render (options : Options) {t : Tree} (ht : t.NamedBelow) :
    Lines.split '\n' '\r' [] (render options t).toList =
      t.ways.map fun way => (line options t way).toList := by
  rw [toList_render]
  refine Lines.split_flatMap fun cs hcs => ?_
  obtain ⟨way, hway, rfl⟩ := List.mem_map.1 hcs
  exact isLine_line ht hway

/-- A tree whose root has no name and whose other nodes all have one is drawn with one line for each
node in pre-order: in front of the label, what shows the place of the node. Trees that are drawn the
same way have the same shape, and nodes at the same place have the same name, below the root rules
of the same kind, and the same span if lines show spans. -/
theorem render_draws (options : Options) {t : Tree} (ht : t.NamedBelow) :
    (Lines.split '\n' '\r' [] (render options t).toList).length = t.nodeCount ∧
      (∀ (k : ℕ) (n : Tree), t.nodes[k]? = some n → ∃ way,
        t.ways[k]? = some way ∧ t.at? way = some n ∧
        (Lines.split '\n' '\r' [] (render options t).toList)[k]? =
          some (lead (t.laterSiblings way) ++ label options n).toList) ∧
      ∀ u : Tree, u.NamedBelow → render options t = render options u →
        Tree.Alike (Agree options) t u := by
  rw [split_render options ht]
  refine ⟨?_, fun k n hn => ?_, fun u hu h => alike_of_render_eq ht hu h⟩
  · rw [List.length_map, Tree.length_ways]
  · have hat := congrArg (·[k]?) (Tree.map_at?_ways t)
    simp only [List.getElem?_map, hn, Option.map_some] at hat
    obtain ⟨way, hway, hat⟩ := Option.map_eq_some_iff.1 hat
    refine ⟨way, hway, hat, ?_⟩
    rw [List.getElem?_map, hway, Option.map_some, line, hat, Option.elim_some]

/-- Two rows, the first of which holds a letter of the given shape. -/
def rows (letter : Description) : Tree :=
  .node ⟨"", .literal ""⟩ ⟨0, 3⟩ "a\tb"
    [.node ⟨"row", .choice ["letter"]⟩ ⟨0, 2⟩ "a\t" [.node ⟨"letter", letter⟩ ⟨0, 2⟩ "a\t" []],
      .node ⟨"row", .choice []⟩ ⟨2, 3⟩ "b" []]

theorem namedBelow_rows (letter : Description) : (rows letter).NamedBelow := by
  have hrow : Text.isName "row".toList := by decide
  have hletter : Text.isName "letter".toList := by decide
  exact ⟨rfl, List.forall_mem_cons.2 ⟨Tree.named_iff.2 ⟨hrow, List.forall_mem_singleton.2
    (Tree.named_leaf _ _ hletter)⟩, List.forall_mem_singleton.2 (Tree.named_leaf _ _ hrow)⟩⟩

/-- The bar in front of the letter shows that a row comes after its own; the text is cut off inside
an escape; the shape of the letter is shown. -/
theorem render_draws_rows :
    (rows (.literal "")).NamedBelow ∧
      (Lines.split '\n' '\r' [] (render ⟨2, true⟩ (rows (.literal ""))).toList)[2]? =
        some "│ └─ ◦ letter 0..2 \"a\\...\"".toList ∧
      render ⟨2, true⟩ (rows (.literal "")) ≠ render ⟨2, true⟩ (rows (.choice [])) := by
  obtain ⟨-, hlines, hsame⟩ := render_draws ⟨2, true⟩ (namedBelow_rows (.literal ""))
  have hletter : (rows (.literal "")).nodes[2]? =
      some (.node ⟨"letter", .literal ""⟩ ⟨0, 2⟩ "a\t" []) := by
    simp [rows, Tree.nodes_eq, Tree.children]
  obtain ⟨way, hway, -, hline⟩ := hlines 2 _ hletter
  refine ⟨namedBelow_rows _, ?_, fun h => ?_⟩
  · obtain rfl : way = [0, 0] := (Option.some.inj hway).symm
    rw [hline]
    decide +kernel
  · obtain ⟨-, hrows⟩ := hsame _ (namedBelow_rows _) h
    obtain ⟨⟨-, hletters⟩, -⟩ := List.forall₂_cons.1 hrows
    obtain ⟨⟨hagree, -⟩, -⟩ := List.forall₂_cons.1 hletters
    exact absurd (hagree.kind_eq rfl) (by decide)

end Format.Treeviz

end PatternGrammar
