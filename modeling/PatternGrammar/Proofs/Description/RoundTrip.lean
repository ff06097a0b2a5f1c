import PatternGrammar.Proofs.Description.Shapes
import PatternGrammar.Proofs.Literal.NormalForm

/-!
# Round trips of descriptions

What reading gives has names where names belong, patterns that are settled, and at least two
alternatives or parts (`Description.Readable`). Such a description is written as a text that is read
as the same description: the texts of the four shapes are told apart by their first name or block
and what follows it.

Main results:

* `Description.readable_of_readChars`: what is read is readable.
* `Description.readChars_text`: the text of a readable description is read back.
-/

namespace PatternGrammar

open PatternGrammar.Text
open Literal (Items)

/-- The pattern is settled and stands on one line. -/
structure IsPattern (pattern : String) : Prop where
  settled : Literal.Settled pattern.toList
  line : '\n' ∉ pattern.toList

/-- A settled pattern may stand between the braces of a block. -/
theorem IsPattern.items {p : String} (h : IsPattern p) : Items p.toList :=
  Literal.ScanState.left_of_after? h.settled.closed

theorem IsPattern.normalize_eq {p : String} (h : IsPattern p) :
    String.ofList (Literal.normalize p.toList) = p := by
  rw [h.settled.normalize_eq, String.ofList_toList]

/-- A part that can be read. -/
def Part.Readable : Part → Prop
  | .name n => isName n.toList
  | .literal p => IsPattern p

/-- A description that can be read. -/
def Description.Readable : Description → Prop
  | .repetition rule _ _ => isName rule.toList
  | .choice alternatives => 2 ≤ alternatives.length ∧ ∀ a ∈ alternatives, isName a.toList
  | .literal p => IsPattern p
  | .composition parts => 2 ≤ parts.length ∧ ∀ p ∈ parts, p.Readable

namespace Description

/-! ## What is read -/

theorem isPattern_of_items {inner : List Char} (h : Items inner) (hline : '\n' ∉ inner) :
    IsPattern (String.ofList (Literal.normalize inner)) := by
  have hscan : Literal.scanBlock ('{' :: inner ++ ['}']) = some (inner, []) :=
    Literal.scanBlock_eq_some_iff_items.2 ⟨h, rfl⟩
  constructor
  · rw [String.toList_ofList]
    exact Literal.settled_of_scanBlock hscan
  · rw [String.toList_ofList]
    exact Literal.newline_not_mem_normalize hline

theorem newline_not_mem_of_block {inner : List Char} (h : '\n' ∉ '{' :: inner ++ ['}']) :
    '\n' ∉ inner :=
  fun hmem => h (List.mem_append_left _ (List.mem_cons_of_mem _ hmem))

theorem Element.readable {cs : List Char} {p : Part} (h : Element cs p) (hline : '\n' ∉ cs) :
    p.Readable := by
  cases h with
  | name hname =>
    rw [Part.Readable, String.toList_ofList]
    exact hname
  | block hinner => exact isPattern_of_items hinner (newline_not_mem_of_block hline)

theorem Row.readable {cs : List Char} {parts : List Part} (h : Row cs parts) (hline : '\n' ∉ cs) :
    ∀ p ∈ parts, p.Readable := by
  induction h with
  | single hcs =>
    intro p hp
    rw [List.mem_singleton.1 hp]
    exact hcs.readable hline
  | cons hfront _ _ _ ih =>
    rw [List.mem_append, List.mem_append, not_or, not_or] at hline
    obtain ⟨hline, -, hrest⟩ := hline
    intro p hp
    rcases List.mem_cons.1 hp with rfl | hp
    · exact hfront.readable hline
    · exact ih hrest p hp

/-- What is read from a line is readable. -/
theorem readable_of_readChars {cs : List Char} {d : Description} (hcs : Trimmed isBlank cs)
    (h : readChars cs = .ok d) (hline : '\n' ∉ cs) : d.Readable := by
  cases (readChars_eq_iff hcs).1 h with
  | repetition hrepeats _ _ =>
    rw [Readable, String.toList_ofList]
    exact hrepeats.1
  | choice _ hrow hlength =>
    refine ⟨by rwa [List.length_map], ?_⟩
    intro a ha
    obtain ⟨name, hname, rfl⟩ := List.mem_map.1 ha
    rw [String.toList_ofList]
    exact hrow.isName name hname
  | literal _ _ hinner heq =>
    rw [heq] at hline
    exact isPattern_of_items hinner (newline_not_mem_of_block hline)
  | composition _ _ _ hrow hlength => exact ⟨hlength, hrow.readable hline⟩

/-! ## Texts on a line -/

/-- The text has no blanks at its ends, and no newline. -/
structure IsLine (cs : List Char) : Prop where
  trimmed : Trimmed isBlank cs
  ne_nil : cs ≠ []
  newline : '\n' ∉ cs

theorem IsLine.append {front mid rest : List Char} (hfront : IsLine front) (hrest : IsLine rest)
    (hmid : '\n' ∉ mid) : IsLine (front ++ mid ++ rest) := by
  refine ⟨hfront.trimmed.append_append hrest.trimmed hfront.ne_nil hrest.ne_nil, ?_, ?_⟩
  · simp [hfront.ne_nil]
  · simp [hfront.newline, hmid, hrest.newline]

theorem isLine_of_isName {cs : List Char} (h : isName cs) : IsLine cs :=
  ⟨trimmed_of_isName (fun _ => isBlank_of_isNameChar) h, ne_nil_of_isName h,
    fun hmem => absurd (isNameChar_of_isName h _ hmem) (by decide)⟩

theorem isLine_singleton {c : Char} (h : isBlank c = false) : IsLine [c] := by
  refine ⟨⟨?_, ?_⟩, List.cons_ne_nil _ _, ?_⟩
  · rintro d ⟨⟩
    exact h
  · rintro d ⟨⟩
    exact h
  · rintro hmem
    obtain rfl := List.mem_singleton.1 hmem
    exact absurd h (by decide)

theorem isLine_block {cs : List Char} (h : '\n' ∉ cs) : IsLine ('\x7b' :: cs ++ ['\x7d']) := by
  have hopen : IsLine ['\x7b'] := isLine_singleton rfl
  have hclose : IsLine ['\x7d'] := isLine_singleton rfl
  exact hopen.append hclose h

theorem isLine_intercalate {sep : List Char} {xs : List (List Char)} (hsep : '\n' ∉ sep)
    (hne : xs ≠ []) (h : ∀ x ∈ xs, IsLine x) : IsLine (sep.intercalate xs) := by
  obtain ⟨htrimmed, hne'⟩ := @trimmed_intercalate _ isBlank sep xs fun x hx =>
    ⟨(h x hx).trimmed, (h x hx).ne_nil⟩
  refine ⟨htrimmed, hne' hne, fun hmem => ?_⟩
  rcases mem_intercalate hmem with hmem | ⟨x, hx, hmem⟩
  · exact hsep hmem
  · exact (h x hx).newline hmem

theorem IsNumeral.newline_not_mem {ds : List Char} (h : IsNumeral ds) : '\n' ∉ ds := by
  intro hmem
  exact absurd (h.2 _ hmem) (by decide)

theorem Counted.isLine {text low : List Char} {high : Option (List Char)}
    (h : Counted text low high) : IsLine text := by
  cases h with
  | optional => exact isLine_singleton rfl
  | zeroOrMore => exact isLine_singleton rfl
  | oneOrMore => exact isLine_singleton rfl
  | exactly hn => exact isLine_block hn.newline_not_mem
  | atLeast hlow =>
    have hbody : '\n' ∉ low ++ [','] := by simp [hlow.newline_not_mem]
    have hline := isLine_block hbody
    rwa [List.cons_append, List.append_assoc] at hline
  | @between low high hlow hhigh =>
    have hbody : '\n' ∉ low ++ ',' :: high := by
      simp [hlow.newline_not_mem, hhigh.newline_not_mem]
    have hline := isLine_block hbody
    rwa [List.cons_append, List.append_assoc] at hline

theorem isLine_countText (min : UInt32) (max : Option UInt32) :
    IsLine (countText min max).toList := by
  obtain ⟨low, high, hcounted, -⟩ := counted_countText min max
  exact hcounted.isLine

theorem toList_text_literal (p : String) :
    (Part.literal p).text.toList = '{' :: p.toList ++ ['}'] := by
  simp [Part.text]

theorem toList_text_composition (parts : List Part) :
    (composition parts).text.toList = [' '].intercalate (parts.map fun p => p.text.toList) := by
  show (" ".intercalate (parts.map Part.text)).toList = _
  rw [String.toList_intercalate, List.map_map]
  rfl

theorem isLine_part {p : Part} (h : p.Readable) : IsLine p.text.toList := by
  cases p with
  | name name => exact isLine_of_isName h
  | literal p =>
    rw [toList_text_literal]
    exact isLine_block h.line

/-- A description that can be read is written on one line. -/
theorem isLine_text {d : Description} (h : d.Readable) : IsLine d.text.toList := by
  cases d with
  | repetition rule min max =>
    have htext : (repetition rule min max).text.toList =
        rule.toList ++ [] ++ (countText min max).toList := by
      rw [List.append_nil]
      exact String.toList_append
    rw [htext]
    exact (isLine_of_isName h).append (isLine_countText min max) (by simp)
  | choice alternatives =>
    obtain ⟨hlength, hnames⟩ := h
    show IsLine (" | ".intercalate alternatives).toList
    rw [String.toList_intercalate]
    refine isLine_intercalate (by decide) ?_ fun x hx => ?_
    · intro hnil
      rw [List.map_eq_nil_iff.1 hnil] at hlength
      simp at hlength
    · obtain ⟨name, hname, rfl⟩ := List.mem_map.1 hx
      exact isLine_of_isName (hnames name hname)
  | literal p =>
    have htext : (literal p).text.toList = '\x7b' :: p.toList ++ ['\x7d'] := toList_text_literal p
    rw [htext]
    exact isLine_block h.line
  | composition parts =>
    obtain ⟨hlength, hparts⟩ := h
    rw [toList_text_composition]
    refine isLine_intercalate (by decide) ?_ fun x hx => ?_
    · intro hnil
      rw [List.map_eq_nil_iff.1 hnil] at hlength
      simp at hlength
    · obtain ⟨p, hp, rfl⟩ := List.mem_map.1 hx
      exact isLine_part (hparts p hp)

/-! ## What is written -/

theorem isGap_of_mem_space : ∀ c ∈ [' '], isGap c := by
  simp [isGap]

theorem barred_intercalate {names : List (List Char)} (hne : names ≠ [])
    (hnames : ∀ n ∈ names, isName n) : Barred ([' ', '|', ' '].intercalate names) names := by
  induction names with
  | nil => exact absurd rfl hne
  | cons name names ih =>
    have hname := hnames name List.mem_cons_self
    cases names with
    | nil =>
      rw [List.intercalate_singleton]
      exact .single hname
    | cons next names =>
      have hrest := ih (List.cons_ne_nil _ _) fun n hn => hnames n (List.mem_cons_of_mem _ hn)
      have hrow := Barred.cons hname isGap_of_mem_space isGap_of_mem_space hrest
      rw [List.intercalate_cons_cons]
      rwa [List.append_assoc] at hrow ⊢

theorem element_text {p : Part} (h : p.Readable) : Element p.text.toList p := by
  cases p with
  | name name =>
    have helement : Element name.toList (.name (String.ofList name.toList)) := .name h
    rwa [String.ofList_toList] at helement
  | literal p =>
    have hp : IsPattern p := h
    have helement := Element.block hp.items
    rw [hp.normalize_eq] at helement
    rw [toList_text_literal]
    exact helement

theorem row_text {parts : List Part} (hne : parts ≠ []) (hparts : ∀ p ∈ parts, p.Readable) :
    Row (composition parts).text.toList parts := by
  rw [toList_text_composition]
  induction parts with
  | nil => exact absurd rfl hne
  | cons p parts ih =>
    have hp := element_text (hparts p List.mem_cons_self)
    cases parts with
    | nil =>
      rw [List.map_singleton, List.intercalate_singleton]
      exact .single hp
    | cons q parts =>
      have hrest := ih (List.cons_ne_nil _ _) fun p hp => hparts p (List.mem_cons_of_mem _ hp)
      have hrow := Row.cons hp isGap_of_mem_space (by simp) hrest
      rw [List.map_cons, List.map_cons, List.intercalate_cons_cons, List.append_assoc]
      exact hrow

/-! ## The shape of what is written -/

/-- A name with a space behind it is no repetition. -/
theorem not_isRepetition_of_space {name : List Char} (hname : isName name) (rest : List Char) :
    ¬IsRepetition (name ++ ' ' :: rest) := by
  rintro ⟨name', low, high, hname', text, htext, heq⟩
  have hspace : ∀ c ∈ (' ' :: rest).head?, isNameChar c = false := by
    rintro c ⟨⟩
    rfl
  -- the count would begin with the space
  have hdrop := congrArg (List.dropWhile isNameChar) heq
  rw [dropWhile_append_stop (isNameChar_of_isName hname) hspace,
    dropWhile_append_stop (isNameChar_of_isName hname') htext.isNameChar_head] at hdrop
  obtain ⟨c, tail, rfl, hc⟩ := htext.exists_head
  obtain ⟨rfl, -⟩ := List.cons.inj hdrop
  simp at hc

theorem not_isRepetition_of_brace (cs : List Char) : ¬IsRepetition ('{' :: cs) := by
  rintro ⟨name, low, high, hname, text, -, heq⟩
  obtain ⟨c, rest, rfl⟩ := List.exists_cons_of_ne_nil (ne_nil_of_isName hname)
  obtain ⟨rfl, -⟩ := List.cons.inj heq
  exact absurd (isNameChar_of_isName hname '{' List.mem_cons_self) (by decide)

theorem Barred.brace_not_mem {cs : List Char} {names : List (List Char)} (h : Barred cs names) :
    '{' ∉ cs := by
  have hname : ∀ {name : List Char}, Text.isName name → '{' ∉ name := fun hname hmem =>
    absurd (isNameChar_of_isName hname _ hmem) (by decide)
  have hgap : ∀ {gap : List Char}, (∀ c ∈ gap, isGap c) → '{' ∉ gap := fun hgap hmem =>
    absurd (hgap _ hmem) (by decide)
  induction h with
  | single hsingle => exact hname hsingle
  | cons hfirst hbefore hafter _ ih => simp [hname hfirst, hgap hbefore, hgap hafter, ih]

theorem Barred.bar_mem {cs : List Char} {names : List (List Char)} (h : Barred cs names)
    (hlength : 2 ≤ names.length) : '|' ∈ cs := by
  cases h with
  | single _ => simp at hlength
  | cons _ _ _ _ => simp

/-- A composition is no choice: it has a brace, or no bar. -/
theorem not_isChoice_composition {parts : List Part} (h : ∀ p ∈ parts, p.Readable) :
    ¬IsChoice (composition parts).text.toList := by
  rintro ⟨names, hrow, hlength⟩
  have hbrace := hrow.brace_not_mem
  have hbar := hrow.bar_mem hlength
  rw [toList_text_composition] at hbrace hbar
  rcases mem_intercalate hbar with hmem | ⟨x, hx, hmem⟩
  · exact absurd hmem (by decide)
  · obtain ⟨p, hp, rfl⟩ := List.mem_map.1 hx
    cases p with
    | literal p =>
      apply hbrace
      apply mem_intercalate_of_mem (List.mem_map_of_mem hp)
      rw [toList_text_literal]
      exact List.mem_cons_self
    | name name =>
      have hname : isName name.toList := h _ hp
      exact absurd (isNameChar_of_isName hname _ hmem) (by decide)

/-- A composition is no repetition and no literal: a space follows its first part. -/
theorem not_isRepetition_composition {p q : Part} {parts : List Part} (hp : p.Readable) :
    ¬IsRepetition (composition (p :: q :: parts)).text.toList ∧
      ¬IsLiteral (composition (p :: q :: parts)).text.toList := by
  rw [toList_text_composition, List.map_cons, List.map_cons, List.intercalate_cons_cons,
    List.append_assoc, List.singleton_append]
  cases p with
  | literal p =>
    rw [toList_text_literal]
    refine ⟨not_isRepetition_of_brace _, ?_⟩
    rintro ⟨inner, hinner, heq⟩
    have hpattern : IsPattern p := hp
    -- the block is closed before the space
    have hscan := Literal.scanBlock_eq_some_iff_items.2 ⟨hinner, heq⟩
    rw [List.append_assoc, List.singleton_append, hpattern.settled.scanBlock_eq] at hscan
    simp at hscan
  | name name =>
    have hname : isName name.toList := hp
    refine ⟨not_isRepetition_of_space hname _, ?_⟩
    rintro ⟨inner, -, heq⟩
    obtain ⟨c, cs, hcs⟩ := List.exists_cons_of_ne_nil (ne_nil_of_isName hname)
    have hc := isNameChar_of_isName hname c (by rw [hcs]; exact List.mem_cons_self)
    rw [Part.text, hcs] at heq
    exact ne_of_isNameChar hc (by decide) (List.cons.inj heq).1

theorem reads_text_repetition {rule : String} (h : isName rule.toList) (min : UInt32)
    (max : Option UInt32) :
    Reads (repetition rule min max).text.toList (.ok (.repetition rule min max)) := by
  obtain ⟨low, high, hcounted, hmin, hmax⟩ := counted_countText min max
  have htext : (repetition rule min max).text.toList = rule.toList ++ (countText min max).toList :=
    String.toList_append
  have hreads := Reads.repetition ⟨h, _, hcounted, htext⟩ hmin hmax
  rwa [String.ofList_toList] at hreads

theorem reads_text_choice {a b : String} {rest : List String}
    (h : ∀ name ∈ a :: b :: rest, isName name.toList) :
    Reads (choice (a :: b :: rest)).text.toList (.ok (.choice (a :: b :: rest))) := by
  have htext : (choice (a :: b :: rest)).text.toList =
      [' ', '|', ' '].intercalate ((a :: b :: rest).map String.toList) := by
    show (" | ".intercalate (a :: b :: rest)).toList = _
    rw [String.toList_intercalate]
    rfl
  have hrow : Barred (choice (a :: b :: rest)).text.toList
      ((a :: b :: rest).map String.toList) := by
    rw [htext]
    apply barred_intercalate (by simp)
    intro name hname
    obtain ⟨alternative, hmem, rfl⟩ := List.mem_map.1 hname
    exact h alternative hmem
  have hrepetition : ¬IsRepetition (choice (a :: b :: rest)).text.toList := by
    rw [htext, List.map_cons, List.map_cons, List.intercalate_cons_cons, List.append_assoc]
    exact not_isRepetition_of_space (h a List.mem_cons_self) _
  have hreads := Reads.choice hrepetition hrow (by simp)
  have hmap : ((a :: b :: rest).map String.toList).map String.ofList = a :: b :: rest := by
    rw [List.map_map]
    exact (List.map_congr_left fun s _ => String.ofList_toList).trans (List.map_id _)
  rwa [hmap] at hreads

theorem reads_text_literal {p : String} (h : IsPattern p) :
    Reads (literal p).text.toList (.ok (.literal p)) := by
  have htext : (literal p).text.toList = '{' :: p.toList ++ ['}'] := toList_text_literal p
  have hrepetition : ¬IsRepetition (literal p).text.toList := by
    rw [htext]
    exact not_isRepetition_of_brace _
  have hchoice : ¬IsChoice (literal p).text.toList := by
    rintro ⟨names, hrow, -⟩
    apply hrow.brace_not_mem
    rw [htext]
    exact List.mem_cons_self
  have hreads := Reads.literal hrepetition hchoice h.items htext
  rwa [h.normalize_eq] at hreads

/-- The text of a description that can be read has the shape of the description. -/
theorem reads_text {d : Description} (h : d.Readable) : Reads d.text.toList (.ok d) := by
  cases d with
  | repetition rule min max => exact reads_text_repetition h min max
  | choice alternatives =>
    obtain ⟨hlength, hnames⟩ := h
    match alternatives, hlength with
    | a :: b :: rest, _ => exact reads_text_choice hnames
  | literal p => exact reads_text_literal h
  | composition parts =>
    obtain ⟨hlength, hparts⟩ := h
    have hrow := row_text (List.ne_nil_of_length_pos (by omega)) hparts
    match parts, hlength with
    | p :: q :: rest, hlength =>
      obtain ⟨hrepetition, hliteral⟩ :=
        @not_isRepetition_composition p q rest (hparts p List.mem_cons_self)
      exact .composition hrepetition (not_isChoice_composition hparts) hliteral hrow hlength

/-- The text of a description that can be read is read as the description. -/
theorem readChars_text {d : Description} (h : d.Readable) : readChars d.text.toList = .ok d :=
  (readChars_eq_iff (isLine_text h).trimmed).2 (reads_text h)

end Description

end PatternGrammar
