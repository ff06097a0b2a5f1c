import PatternGrammar.Format.Tag
import PatternGrammar.Proofs.Format.Comparison

/-!
# Reading trees off their tags

Content holds no sign that begins an element and no line break, so that the tag or the line break
behind it shows where it ends, and which of the two it is shows whether the element has others
inside. The rows of elements on one level end at a closing tag, which stands two columns further to
the left than the opening tag of one more element would.

Main results:

* `escape_append_inj`: content is known from its escaped form.
* `elements_append_inj`: a row of elements is known from its text.
* `render_eq_iff`: two trees are written the same way iff they agree in shape, spans, names and,
  below the root, texts.
-/

namespace PatternGrammar.Format.Tag

open PatternGrammar.Text (Span isNameChar)

/-! ## Content -/

/-- Reads the character that escaped text begins with. -/
def readChar : List Char → Option (Char × List Char)
  | '&' :: 'a' :: 'm' :: 'p' :: ';' :: rest => some ('&', rest)
  | '&' :: 'l' :: 't' :: ';' :: rest => some ('<', rest)
  | '&' :: 'g' :: 't' :: ';' :: rest => some ('>', rest)
  | '&' :: 'q' :: 'u' :: 'o' :: 't' :: ';' :: rest => some ('"', rest)
  | '&' :: '#' :: '1' :: '0' :: ';' :: rest => some ('\n', rest)
  | '&' :: '#' :: '9' :: ';' :: rest => some ('\t', rest)
  | c :: rest => some (c, rest)
  | [] => none

/-- Escaping can be undone. -/
theorem readChar_escapeChar (c : Char) (rest : List Char) :
    readChar (escapeChar c ++ rest) = some (c, rest) := by
  unfold escapeChar
  split_ifs with hamp hlt hgt hquot hline htab
  · rw [hamp]; rfl
  · rw [hlt]; rfl
  · rw [hgt]; rfl
  · rw [hquot]; rfl
  · rw [hline]; rfl
  · rw [htab]; rfl
  · unfold readChar
    split <;> simp_all

theorem escapeChar_append_inj {c d : Char} {rest rest' : List Char}
    (h : escapeChar c ++ rest = escapeChar d ++ rest') : c = d ∧ rest = rest' := by
  have hread := congrArg readChar h
  rw [readChar_escapeChar, readChar_escapeChar] at hread
  exact Prod.mk.inj (Option.some.inj hread)

/-- Content does not begin a tag and does not end a line. -/
def isContent (c : Char) : Bool := c != '<' && c != '\n'

theorem isContent_of_mem_escapeChar {c d : Char} (h : d ∈ escapeChar c) : isContent d := by
  unfold escapeChar at h
  split_ifs at h with hamp hlt hgt hquot hline htab
  case neg =>
    rw [List.mem_singleton.1 h]
    simp [isContent, hlt, hline]
  all_goals exact List.all_eq_true.1 (by decide) d h

theorem escapeChars_injective {cs ds : List Char}
    (h : cs.flatMap escapeChar = ds.flatMap escapeChar) : cs = ds := by
  have hread : ∀ (c : Char) (rest : List Char), escapeChar c ++ rest ≠ [] := by
    intro c rest hnil
    have hread := readChar_escapeChar c rest
    rw [hnil] at hread
    exact nomatch hread
  induction cs generalizing ds with
  | nil =>
    cases ds with
    | nil => rfl
    | cons d ds => exact absurd h.symm (hread d _)
  | cons c cs ih =>
    cases ds with
    | nil => exact absurd h (hread c _)
    | cons d ds =>
      obtain ⟨rfl, htail⟩ := escapeChar_append_inj h
      rw [ih htail]

theorem toList_escape (s : String) : (escape s).toList = s.toList.flatMap escapeChar :=
  String.toList_ofList

/-- A text is known from its escaped form, where a tag begins or a line ends behind it. -/
theorem escape_append_inj {s s' : String} {rest rest' : List Char}
    (hrest : ∀ c ∈ rest.head?, isContent c = false)
    (hrest' : ∀ c ∈ rest'.head?, isContent c = false)
    (h : (escape s).toList ++ rest = (escape s').toList ++ rest') : s = s' ∧ rest = rest' := by
  have hcontent : ∀ s : String, ∀ c ∈ (escape s).toList, isContent c := by
    intro s c hc
    rw [toList_escape] at hc
    obtain ⟨d, -, hc⟩ := List.mem_flatMap.1 hc
    exact isContent_of_mem_escapeChar hc
  obtain ⟨hescape, h⟩ := Text.append_inj_of_stop (hcontent s) hrest (hcontent s') hrest' h
  rw [toList_escape, toList_escape] at hescape
  exact ⟨String.toList_injective (escapeChars_injective hescape), h⟩

/-! ## Elements -/

/-- What follows the text of a node: its closing tag, or its children on lines of their own. -/
def ending (level : ℕ) (t : Tree) : List Char :=
  if t.isLeaf then (closing t).toList
  else '\n' :: ((elements (level + 1) t.children).toList ++
    (List.replicate (2 * level) ' ' ++ (closing t).toList))

theorem tagName_of_named {t : Tree} (h : t.Named) : tagName t = t.ruleName := by
  rw [tagName, Tree.isRoot_of_named h]
  rfl

theorem toList_closing {t : Tree} :
    (closing t).toList = '<' :: '/' :: ((tagName t).toList ++ ['>', '\n']) := by
  rw [closing, String.toList_append, String.toList_append]
  rfl

/-- The pieces of an element below the root. -/
theorem toList_element {t : Tree} (h : t.Named) (level : ℕ) (rest : List Char) :
    (element level t).toList ++ rest = List.replicate (2 * level) ' ' ++
      '<' :: (t.ruleName.toList ++ (" span=\"".toList ++ (t.span.text.toList ++
        ("\">".toList ++ ((escape t.text).toList ++ (ending level t ++ rest)))))) := by
  have hroot := Tree.isRoot_of_named h
  have hname := tagName_of_named h
  obtain ⟨rule, span, text, children⟩ := t
  rw [element, if_neg (by rw [hroot]; exact Bool.false_ne_true), ending, Tree.isLeaf, Tree.children]
  split
  · simp [opening, margin, hname, Tree.text]
  · simp [opening, margin, hname, Tree.text]

/-- What a document shows of a node: its span, its name and, below the root, its text. -/
structure Agree (t u : Tree) : Prop where
  span_eq : t.span = u.span
  name_eq : t.ruleName = u.ruleName
  text_eq : t.isRoot = false → t.text = u.text

theorem isContent_ending (level : ℕ) (t : Tree) (rest : List Char) :
    ∀ c ∈ (ending level t ++ rest).head?, isContent c = false := by
  unfold ending
  split
  · rw [toList_closing]
    exact Text.stop_cons rfl
  · exact Text.stop_cons rfl

/-- The first lines of two elements on a level agree only if their nodes do. -/
theorem element_append_inj {t u : Tree} (ht : t.Named) (hu : u.Named) {level : ℕ}
    {rest rest' : List Char}
    (h : (element level t).toList ++ rest = (element level u).toList ++ rest') :
    Agree t u ∧ ending level t ++ rest = ending level u ++ rest' := by
  have hspace {cs : List Char} : ∀ c ∈ (" span=\"".toList ++ cs).head?, isNameChar c = false :=
    Text.stop_cons rfl
  have hquote {cs : List Char} : ∀ c ∈ ("\">".toList ++ cs).head?, c.isDigit = false :=
    Text.stop_cons rfl
  rw [toList_element ht, toList_element hu] at h
  have hopening := (List.cons.inj (List.append_cancel_left h)).2
  obtain ⟨hname, hrest⟩ := Text.name_append_inj (Tree.named_iff.1 ht).1 (Tree.named_iff.1 hu).1
    hspace hspace hopening
  obtain ⟨hspan, hrest⟩ := Span.text_append_inj hquote hquote (List.append_cancel_left hrest)
  obtain ⟨htext, hrest⟩ := escape_append_inj (isContent_ending level t rest)
    (isContent_ending level u rest') (List.append_cancel_left hrest)
  exact ⟨⟨hspan, hname, fun _ => htext⟩, hrest⟩

theorem toList_elements_cons (level : ℕ) (t : Tree) (ts : List Tree) (rest : List Char) :
    (elements level (t :: ts)).toList ++ rest =
      (element level t).toList ++ ((elements level ts).toList ++ rest) := by
  rw [elements, String.toList_append, List.append_assoc]

/-- One more element does not begin where a tag begins one level further up. -/
theorem toList_elements_ne {level : ℕ} {t : Tree} (ht : t.Named) {ts : List Tree}
    {rest rest' : List Char} :
    (elements (level + 1) (t :: ts)).toList ++ rest ≠
      List.replicate (2 * level) ' ' ++ '<' :: rest' := by
  intro h
  rw [toList_elements_cons, toList_element ht, Nat.mul_add, List.replicate_add,
    List.append_assoc] at h
  exact absurd (List.cons.inj (List.append_cancel_left h)).1 (by decide)

theorem toList_closing_append_inj {t u : Tree} (h : tagName t = tagName u) {rest rest' : List Char}
    (hclosing : (closing t).toList ++ rest = (closing u).toList ++ rest') : rest = rest' := by
  rw [toList_closing, toList_closing, h] at hclosing
  exact List.append_cancel_left hclosing

/-- What follows the text of a node is known if the row of its children is. -/
theorem ending_append_inj {t u : Tree} (hname : tagName t = tagName u) {level : ℕ}
    {rest rest' : List Char}
    (hrow : ∀ rest rest' : List Char,
      (elements (level + 1) t.children).toList ++ (List.replicate (2 * level) ' ' ++ '<' :: rest) =
          (elements (level + 1) u.children).toList ++
            (List.replicate (2 * level) ' ' ++ '<' :: rest') →
        List.Forall₂ (Tree.Alike Agree) t.children u.children ∧ rest = rest')
    (h : ending level t ++ rest = ending level u ++ rest') :
    List.Forall₂ (Tree.Alike Agree) t.children u.children ∧ rest = rest' := by
  unfold ending at h
  split at h
  · rename_i ht
    split at h
    · rename_i hu
      rw [List.isEmpty_iff.1 ht, List.isEmpty_iff.1 hu]
      exact ⟨.nil, toList_closing_append_inj hname h⟩
    · rw [toList_closing] at h
      exact absurd (List.cons.inj h).1 (by decide)
  · split at h
    · rw [toList_closing (t := u)] at h
      exact absurd (List.cons.inj h).1 (by decide)
    · rw [List.cons_append, List.cons_append] at h
      have hbelow := (List.cons.inj h).2
      simp only [List.append_assoc, toList_closing, List.cons_append] at hbelow
      obtain ⟨hchildren, htags⟩ := hrow _ _ hbelow
      refine ⟨hchildren, toList_closing_append_inj hname ?_⟩
      rw [toList_closing, toList_closing, List.cons_append, List.cons_append, List.cons_append,
        List.cons_append, List.append_assoc, List.append_assoc]
      exact congrArg ('<' :: ·) htags

/-- A row of elements is known where a tag begins one level further up behind it. -/
theorem elements_append_inj {level : ℕ} {rest rest' : List Char} :
    ∀ (ts us : List Tree), (∀ t ∈ ts, t.Named) → (∀ u ∈ us, u.Named) →
      (elements (level + 1) ts).toList ++ (List.replicate (2 * level) ' ' ++ '<' :: rest) =
        (elements (level + 1) us).toList ++ (List.replicate (2 * level) ' ' ++ '<' :: rest') →
      List.Forall₂ (Tree.Alike Agree) ts us ∧ rest = rest'
  | [], [], _, _, h => by
    rw [List.append_cancel_left_eq, List.append_cancel_left_eq] at h
    exact ⟨.nil, (List.cons.inj h).2⟩
  | [], u :: us, _, hus, h => absurd h.symm (toList_elements_ne (hus u List.mem_cons_self))
  | t :: ts, [], hts, _, h => absurd h (toList_elements_ne (hts t List.mem_cons_self))
  | .node rule span text cs :: ts, u :: us, hts, hus, h => by
    obtain ⟨ht, hts⟩ := List.forall_mem_cons.1 hts
    obtain ⟨hu, hus⟩ := List.forall_mem_cons.1 hus
    rw [toList_elements_cons, toList_elements_cons] at h
    obtain ⟨hagree, h⟩ := element_append_inj ht hu h
    have hname : tagName (.node rule span text cs) = tagName u := by
      rw [tagName_of_named ht, tagName_of_named hu, hagree.name_eq]
    obtain ⟨hchildren, h⟩ := ending_append_inj hname (fun _ _ hrow =>
      elements_append_inj cs u.children (Tree.named_iff.1 ht).2 (Tree.named_iff.1 hu).2 hrow) h
    obtain ⟨hothers, hrest⟩ := elements_append_inj ts us hts hus h
    exact ⟨.cons (.intro hagree hchildren) hothers, hrest⟩

/-! ## Documents -/

theorem toList_render {t : Tree} (h : t.isRoot) :
    (render t).toList = "<document span=\"".toList ++ (t.span.text.toList ++ ("\">\n".toList ++
      ((elements 1 t.children).toList ++ "</document>\n".toList))) := by
  have hname : tagName t = "document" := if_pos h
  obtain ⟨rule, span, text, children⟩ := t
  rw [render, element, if_pos h]
  simp [opening, closing, margin, hname, Tree.children]

theorem Agree.isRoot_eq {t u : Tree} (h : Agree t u) : t.isRoot = u.isRoot := by
  rw [Tree.isRoot, Tree.isRoot, h.name_eq]

theorem Agree.tagName_eq {t u : Tree} (h : Agree t u) : tagName t = tagName u := by
  rw [tagName, tagName, h.isRoot_eq, h.name_eq]

theorem Agree.tags_eq {t u : Tree} (h : Agree t u) :
    opening t = opening u ∧ closing t = closing u := by
  rw [opening, opening, closing, closing, h.tagName_eq, h.span_eq]
  exact ⟨rfl, rfl⟩

theorem elements_congr (level : ℕ) : ∀ {ts us : List Tree},
    List.Forall₂ (Tree.Alike Agree) ts us → elements level ts = elements level us
  | [], [], _ => rfl
  | .node rule span text cs :: ts, .node rule' span' text' cs' :: us, h => by
    obtain ⟨hfirst, hothers⟩ := List.forall₂_cons.1 h
    obtain ⟨hagree, hchildren⟩ := hfirst
    change List.Forall₂ (Tree.Alike Agree) cs cs' at hchildren
    obtain ⟨hopening, hclosing⟩ := hagree.tags_eq
    have hinner := elements_congr (level + 1) hchildren
    have hleaf : cs.isEmpty = cs'.isEmpty := by
      rw [Bool.eq_iff_iff, List.isEmpty_iff, List.isEmpty_iff, ← List.length_eq_zero_iff,
        ← List.length_eq_zero_iff, hchildren.length_eq]
    rw [elements, elements, elements_congr level hothers, element, element, hagree.isRoot_eq,
      hopening, hclosing, hinner, hleaf]
    congr 1
    split
    · rfl
    · rename_i hroot
      have htext : text = text' :=
        hagree.text_eq (by rw [hagree.isRoot_eq]; exact Bool.eq_false_iff.2 hroot)
      rw [htext]

/-- Trees whose roots have no names and whose other nodes all have one are written the same way iff
they have the same shape and nodes at the same place have the same span, the same name and, below
the root, the same text. -/
theorem render_eq_iff {t u : Tree} (ht : t.NamedBelow) (hu : u.NamedBelow) :
    render t = render u ↔ Tree.Alike Agree t u := by
  constructor
  · intro h
    have hquote {cs : List Char} : ∀ c ∈ ("\">\n".toList ++ cs).head?, c.isDigit = false :=
      Text.stop_cons rfl
    have hchars := congrArg String.toList h
    rw [toList_render ht.root, toList_render hu.root] at hchars
    obtain ⟨hspan, hrest⟩ :=
      Span.text_append_inj hquote hquote (List.append_cancel_left hchars)
    obtain ⟨hchildren, -⟩ := @elements_append_inj 0 _ _ t.children u.children ht.below hu.below
      (List.append_cancel_left hrest)
    have hname : t.ruleName = u.ruleName := by
      rw [beq_iff_eq.1 ht.root, beq_iff_eq.1 hu.root]
    refine .intro ⟨hspan, hname, fun hroot => ?_⟩ hchildren
    rw [ht.root] at hroot
    exact nomatch hroot
  · intro h
    have hrow := elements_congr 0 (.cons h .nil)
    simpa [elements, render] using hrow

/-- A document with one sign. The root has a text that the document does not show. -/
def sign (hidden content : String) : Tree :=
  .node ⟨"", .literal hidden⟩ ⟨0, 4⟩ hidden
    [.node ⟨"sign", .literal content⟩ ⟨0, 4⟩ content []]

theorem namedBelow_sign (hidden content : String) : (sign hidden content).NamedBelow := by
  have hname : Text.isName "sign".toList := by decide
  exact ⟨rfl, List.forall_mem_singleton.2 (Tree.named_leaf _ _ hname)⟩

/-- A sign is not taken for its entity, and the entity is shown as it stands. -/
theorem render_eq_iff_sign :
    (sign "a" "&lt;\n").NamedBelow ∧ (sign "b" "&lt;\n").NamedBelow ∧
      render (sign "a" "&lt;\n") = render (sign "b" "&lt;\n") ∧
      Tree.Alike Agree (sign "a" "&lt;\n") (sign "b" "&lt;\n") ∧
      render (sign "a" "<") ≠ render (sign "a" "&lt;") := by
  have hsame : render (sign "a" "&lt;\n") = render (sign "b" "&lt;\n") := by
    simp [render, element, sign, opening, closing, tagName, Tree.isRoot, Tree.ruleName, Tree.rule,
      Tree.span]
  refine ⟨namedBelow_sign _ _, namedBelow_sign _ _, hsame,
    (render_eq_iff (namedBelow_sign _ _) (namedBelow_sign _ _)).1 hsame, fun h => ?_⟩
  obtain ⟨-, hchildren⟩ := (render_eq_iff (namedBelow_sign _ _) (namedBelow_sign _ _)).1 h
  obtain ⟨⟨hagree, -⟩, -⟩ := List.forall₂_cons.1 hchildren
  exact absurd (hagree.text_eq rfl) (by decide)

end PatternGrammar.Format.Tag
