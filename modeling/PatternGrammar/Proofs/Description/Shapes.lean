import Mathlib.Data.List.TakeWhile
import PatternGrammar.Proofs.Description.Counts
import PatternGrammar.Proofs.Literal.Blocks

/-!
# The grammar of descriptions

What the right side of a rule can be, and what each text is read as: the first of the four shapes
that the text has, or an error (`Reads`). The shapes are given by what texts are made of, without
reading them.

A text can have two shapes: `a{3}` is a repetition, and a name beside a block as well. It is read as a
repetition, and stays one where a bound is out of range.

For each shape, its texts are read as what the shape says, and other texts are not read as one of this
shape. Names of a choice and parts of a composition are read with spaces and tabs around them, so
that both directions are shown for texts with spaces and tabs at the ends (`exists_barred`, `Spread`);
a description is read without them.

Main results:

* `Description.readChars_eq_iff`: what a text without blanks at its ends is read as.
* `Description.read_eq_iff`: what any text is read as.
-/

namespace PatternGrammar.Description

open PatternGrammar.Text
open Nat (ofDigitChars)
open Literal (Items)

/-! ## Shapes -/

/-- The text is a repetition of the name, with the digits of its bounds. -/
def Repeats (cs name low : List Char) (high : Option (List Char)) : Prop :=
  isName name ∧ ∃ count, Counted count low high ∧ cs = name ++ count

/-- The text is a row of names with bars between them. -/
inductive Barred : List Char → List (List Char) → Prop where
  | single {name : List Char} (hname : isName name) : Barred name [name]
  | cons {name before after cs : List Char} {names : List (List Char)} (hname : isName name)
      (hbefore : ∀ c ∈ before, isGap c) (hafter : ∀ c ∈ after, isGap c) (hcs : Barred cs names) :
      Barred (name ++ before ++ '|' :: (after ++ cs)) (name :: names)

/-- The text is one part of a composition. -/
inductive Element : List Char → Part → Prop where
  | name {name : List Char} (hname : isName name) : Element name (.name (String.ofList name))
  | block {inner : List Char} (hinner : Items inner) :
      Element ('{' :: inner ++ ['}']) (.literal (String.ofList (Literal.normalize inner)))

/-- The text is a row of parts, where one of two parts with nothing between them is a block. -/
inductive Row : List Char → List Part → Prop where
  | single {cs : List Char} {p : Part} (hcs : Element cs p) : Row cs [p]
  | cons {front gap cs : List Char} {p q : Part} {parts : List Part} (hfront : Element front p)
      (hgap : ∀ c ∈ gap, isGap c) (hbeside : gap = [] → p.isLiteral ∨ q.isLiteral)
      (hcs : Row cs (q :: parts)) : Row (front ++ (gap ++ cs)) (p :: q :: parts)

def IsRepetition (cs : List Char) : Prop :=
  ∃ name low high, Repeats cs name low high

def IsChoice (cs : List Char) : Prop :=
  ∃ names, Barred cs names ∧ 2 ≤ names.length

def IsLiteral (cs : List Char) : Prop :=
  ∃ inner, Items inner ∧ cs = '{' :: inner ++ ['}']

def IsComposition (cs : List Char) : Prop :=
  ∃ parts, Row cs parts ∧ 2 ≤ parts.length

/-- What a text without blanks at its ends is read as. -/
inductive Reads (cs : List Char) : Except DescriptionError Description → Prop where
  | repetition {name low : List Char} {high : Option (List Char)} {min : UInt32}
      {max : Option UInt32} (hcs : Repeats cs name low high)
      (hmin : min.toNat = ofDigitChars 10 low 0)
      (hmax : max.map UInt32.toNat = high.map (ofDigitChars 10 · 0)) :
      Reads cs (.ok (.repetition (String.ofList name) min max))
  | lowOutOfRange {name low : List Char} {high : Option (List Char)} (hcs : Repeats cs name low high)
      (hlow : 2 ^ 32 ≤ ofDigitChars 10 low 0) :
      Reads cs (.error (.boundOutOfRange (String.ofList low)))
  | highOutOfRange {name low high : List Char} (hcs : Repeats cs name low (some high))
      (hlow : ofDigitChars 10 low 0 < 2 ^ 32) (hhigh : 2 ^ 32 ≤ ofDigitChars 10 high 0) :
      Reads cs (.error (.boundOutOfRange (String.ofList high)))
  | choice {names : List (List Char)} (hrepetition : ¬IsRepetition cs) (hcs : Barred cs names)
      (hlength : 2 ≤ names.length) : Reads cs (.ok (.choice (names.map String.ofList)))
  | literal {inner : List Char} (hrepetition : ¬IsRepetition cs) (hchoice : ¬IsChoice cs)
      (hinner : Items inner) (hcs : cs = '{' :: inner ++ ['}']) :
      Reads cs (.ok (.literal (String.ofList (Literal.normalize inner))))
  | composition {parts : List Part} (hrepetition : ¬IsRepetition cs) (hchoice : ¬IsChoice cs)
      (hliteral : ¬IsLiteral cs) (hcs : Row cs parts) (hlength : 2 ≤ parts.length) :
      Reads cs (.ok (.composition parts))
  | unrecognized (hrepetition : ¬IsRepetition cs) (hchoice : ¬IsChoice cs)
      (hliteral : ¬IsLiteral cs) (hcomposition : ¬IsComposition cs) :
      Reads cs (.error (.unrecognizedShape (String.ofList cs)))

/-! ## Spaces and tabs -/

theorem isBlank_of_isGap {c : Char} (h : isGap c) : isBlank c := by
  rw [isGap, Bool.or_eq_true, beq_iff_eq, beq_iff_eq] at h
  rcases h with rfl | rfl <;> rfl

theorem isGap_of_isNameChar (c : Char) (h : isNameChar c) : isGap c = false := by
  have hspace : c ≠ ' ' := ne_of_isNameChar h (by decide)
  have htab : c ≠ '\t' := ne_of_isNameChar h (by decide)
  simp [isGap, hspace, htab]

theorem endsName_of_isNameChar {c : Char} (h : isNameChar c) : endsName c = false := by
  rw [endsName, isGap_of_isNameChar c h]
  simp [ne_of_isNameChar h (d := '{') (by decide)]

theorem endsName_of_isGap {c : Char} (h : isGap c) : endsName c := by
  rw [endsName, h, Bool.true_or]

/-! ## Repetitions -/

/-- A name at the start of a text, with something after it that does not belong to it. -/
theorem readRepetition?_name {name rest : List Char} (hname : isName name)
    (hrest : ∀ c ∈ rest.head?, isNameChar c = false) :
    readRepetition? (name ++ rest) =
      (readCount? rest).map fun count => (String.ofList name, count) := by
  rw [readRepetition?, takeWhile_append_stop (isNameChar_of_isName hname) hrest,
    dropWhile_append_stop (isNameChar_of_isName hname) hrest]
  exact if_pos hname

theorem Repeats.exists_count {cs name low : List Char} {high : Option (List Char)}
    (h : Repeats cs name low high) : ∃ count,
      readRepetition? cs = some (String.ofList name, count) ∧ count.bounds = boundsOf low high := by
  obtain ⟨hname, text, htext, rfl⟩ := h
  obtain ⟨count, hread, hbounds⟩ := htext.exists_count
  refine ⟨count, ?_, hbounds⟩
  rw [readRepetition?_name hname htext.isNameChar_head, hread, Option.map_some]

/-- A text that is no repetition is not read as one. -/
theorem readRepetition?_eq_none {cs : List Char} (h : ¬IsRepetition cs) :
    readRepetition? cs = none := by
  rw [Option.eq_none_iff_forall_ne_some]
  intro result hread
  apply h
  unfold readRepetition? at hread
  dsimp only at hread
  split at hread
  · rename_i hname
    obtain ⟨count, hcount, -⟩ := Option.map_eq_some_iff.1 hread
    obtain ⟨low, high, hcounted⟩ := exists_counted hcount
    refine ⟨_, low, high, hname, _, hcounted, ?_⟩
    rw [List.takeWhile_append_dropWhile]
  · simp at hread

/-! ## Choices -/

theorem splitAtBars_eq {cs : List Char} (h : '|' ∉ cs) : splitAtBars cs = [cs] := by
  induction cs with
  | nil => rfl
  | cons c cs ih =>
    rw [List.mem_cons, not_or] at h
    rw [splitAtBars, if_neg (Ne.symm h.1), ih h.2]

theorem splitAtBars_append {piece : List Char} (h : '|' ∉ piece) (rest : List Char) :
    splitAtBars (piece ++ '|' :: rest) = piece :: splitAtBars rest := by
  induction piece with
  | nil => rfl
  | cons c piece ih =>
    rw [List.mem_cons, not_or] at h
    rw [List.cons_append, splitAtBars, if_neg (Ne.symm h.1), ih h.2]

theorem Barred.isName {cs : List Char} {names : List (List Char)} (h : Barred cs names) :
    ∀ name ∈ names, isName name := by
  induction h with
  | single hname =>
    intro name hmem
    rwa [List.mem_singleton.1 hmem]
  | cons hname _ _ _ ih =>
    intro name hmem
    rcases List.mem_cons.1 hmem with rfl | hmem
    · exact hname
    · exact ih name hmem

theorem bar_not_mem {front name rest : List Char} (hfront : ∀ c ∈ front, isGap c)
    (hname : isName name) (hrest : ∀ c ∈ rest, isGap c) : '|' ∉ front ++ name ++ rest := by
  rw [List.mem_append, List.mem_append]
  rintro ((hmem | hmem) | hmem)
  · exact absurd (hfront _ hmem) (by decide)
  · exact absurd (isNameChar_of_isName hname _ hmem) (by decide)
  · exact absurd (hrest _ hmem) (by decide)

theorem trimGaps_append {front name rest : List Char} (hfront : ∀ c ∈ front, isGap c)
    (hname : isName name) (hrest : ∀ c ∈ rest, isGap c) : trimGaps (front ++ name ++ rest) = name :=
  trim_append hfront hrest (trimmed_of_isName isGap_of_isNameChar hname)

theorem exists_append_trimGaps (cs : List Char) : ∃ front rest, (∀ c ∈ front, isGap c) ∧
    (∀ c ∈ rest, isGap c) ∧ cs = front ++ trimGaps cs ++ rest :=
  exists_append_trim isGap cs

/-- The names are what stands between the bars. -/
theorem Barred.trimGaps_splitAtBars {cs : List Char} {names : List (List Char)} (h : Barred cs names)
    {front rest : List Char} (hfront : ∀ c ∈ front, isGap c) (hrest : ∀ c ∈ rest, isGap c) :
    (splitAtBars (front ++ cs ++ rest)).map trimGaps = names := by
  induction h generalizing front with
  | single hname =>
    rw [splitAtBars_eq (bar_not_mem hfront hname hrest), List.map_singleton,
      trimGaps_append hfront hname hrest]
  | @cons name before after cs names hname hbefore hafter _ ih =>
    have hsplit : front ++ (name ++ before ++ '|' :: (after ++ cs)) ++ rest =
        (front ++ name ++ before) ++ '|' :: (after ++ cs ++ rest) := by
      simp only [List.append_assoc, List.cons_append]
    rw [hsplit, splitAtBars_append (bar_not_mem hfront hname hbefore), List.map_cons,
      trimGaps_append hfront hname hbefore, ih hafter]

/-- Where names stand between the bars, the text is a row of them, with spaces and tabs around it. -/
theorem exists_barred {cs : List Char} (h : ∀ piece ∈ splitAtBars cs, isName (trimGaps piece)) :
    ∃ front row rest, (∀ c ∈ front, isGap c) ∧ (∀ c ∈ rest, isGap c) ∧ cs = front ++ row ++ rest ∧
      Barred row ((splitAtBars cs).map trimGaps) := by
  by_cases hbar : '|' ∈ cs
  · obtain ⟨piece, tail, heq, hpiece⟩ := List.eq_append_cons_of_mem hbar
    have hlength : tail.length < cs.length := by
      rw [heq, List.length_append, List.length_cons]
      omega
    rw [heq, splitAtBars_append hpiece] at h ⊢
    obtain ⟨after, row, rest, hafter, hrest, htail, hrow⟩ :=
      exists_barred fun p hp => h p (List.mem_cons_of_mem _ hp)
    obtain ⟨front, before, hfront, hbefore, hname⟩ := exists_append_trimGaps piece
    refine ⟨front, trimGaps piece ++ before ++ '|' :: (after ++ row), rest, hfront, hrest, ?_, ?_⟩
    · calc piece ++ '|' :: tail
          = (front ++ trimGaps piece ++ before) ++ '|' :: (after ++ row ++ rest) := by
            rw [← hname, htail]
        _ = front ++ (trimGaps piece ++ before ++ '|' :: (after ++ row)) ++ rest := by
            simp only [List.append_assoc, List.cons_append]
    · exact .cons (h piece List.mem_cons_self) hbefore hafter hrow
  · rw [splitAtBars_eq hbar] at h ⊢
    obtain ⟨front, rest, hfront, hrest, hcs⟩ := exists_append_trimGaps cs
    exact ⟨front, trimGaps cs, rest, hfront, hrest, hcs, .single (h cs List.mem_cons_self)⟩
termination_by cs.length

theorem Barred.readChoice?_eq {cs : List Char} {names : List (List Char)} (h : Barred cs names)
    (hlength : 2 ≤ names.length) : readChoice? cs = some (names.map String.ofList) := by
  have hgap : ∀ c ∈ ([] : List Char), isGap c := by simp
  have hpieces := h.trimGaps_splitAtBars hgap hgap
  rw [List.nil_append, List.append_nil] at hpieces
  have hall : names.all Text.isName = true := List.all_eq_true.2 h.isName
  rw [readChoice?, hpieces, hall]
  simp [hlength]

/-- Nothing else is read as a choice. -/
theorem readChoice?_eq_none {cs : List Char} (hcs : Trimmed isGap cs) (h : ¬IsChoice cs) :
    readChoice? cs = none := by
  rw [Option.eq_none_iff_forall_ne_some]
  intro alternatives hread
  unfold readChoice? at hread
  dsimp only at hread
  split at hread
  · rename_i hpieces
    rw [Bool.and_eq_true, decide_eq_true_eq, List.all_map, List.all_eq_true] at hpieces
    obtain ⟨hlength, hnames⟩ := hpieces
    obtain ⟨front, row, rest, hfront, hrest, heq, hrow⟩ := exists_barred hnames
    -- there are no spaces and tabs around the row
    rw [heq] at hcs
    obtain ⟨rfl, rfl⟩ := hcs.eq_nil hfront hrest
    obtain rfl : cs = row := by rw [heq, List.append_nil, List.nil_append]
    exact h ⟨_, hrow, hlength⟩
  · simp at hread

/-! ## Literals -/

theorem readLiteral?_eq {inner : List Char} (hinner : Items inner) :
    readLiteral? ('{' :: inner ++ ['}']) = some (String.ofList (Literal.normalize inner)) := by
  rw [readLiteral?, Literal.scanBlock_eq_some_iff_items.2 ⟨hinner, rfl⟩]

/-- Nothing else is read as a literal. -/
theorem readLiteral?_eq_none {cs : List Char} (h : ¬IsLiteral cs) : readLiteral? cs = none := by
  rw [Option.eq_none_iff_forall_ne_some]
  intro pattern hread
  unfold readLiteral? at hread
  split at hread
  · rename_i inner hscan
    obtain ⟨hinner, hcs⟩ := Literal.scanBlock_eq_some_iff_items.1 hscan
    exact h ⟨inner, hinner, hcs⟩
  · simp at hread

/-! ## Compositions -/

/-- A block begins with its brace, a name with what belongs to it. -/
theorem Element.exists_head {cs : List Char} {p : Part} (h : Element cs p) :
    ∃ c rest, cs = c :: rest ∧ if p.isLiteral then c = '{' else isNameChar c := by
  cases h with
  | name hname =>
    obtain ⟨c, rest, rfl⟩ := List.exists_cons_of_ne_nil (ne_nil_of_isName hname)
    exact ⟨c, rest, rfl, isNameChar_of_isName hname c List.mem_cons_self⟩
  | block _ => exact ⟨'{', _, rfl, rfl⟩

theorem Row.exists_head {cs : List Char} {p : Part} {parts : List Part} (h : Row cs (p :: parts)) :
    ∃ c rest, cs = c :: rest ∧ if p.isLiteral then c = '{' else isNameChar c := by
  cases h with
  | single hcs => exact hcs.exists_head
  | cons hfront _ _ _ =>
    obtain ⟨c, rest, rfl, hc⟩ := hfront.exists_head
    exact ⟨c, _, rfl, hc⟩

theorem Row.ne_nil {cs : List Char} {parts : List Part} (h : Row cs parts) : parts ≠ [] := by
  cases h <;> exact List.cons_ne_nil _ _

theorem Row.length_le {cs : List Char} {parts : List Part} (h : Row cs parts) :
    parts.length ≤ cs.length := by
  induction h with
  | single hcs =>
    obtain ⟨c, rest, rfl, -⟩ := hcs.exists_head
    rw [List.length_singleton, List.length_cons]
    omega
  | @cons front gap cs p q parts hfront _ _ _ ih =>
    obtain ⟨c, rest, rfl, -⟩ := hfront.exists_head
    rw [List.length_cons, List.length_append, List.length_append, List.length_cons]
    rw [List.length_cons] at ih ⊢
    omega

theorem readParts?_nil {n : ℕ} {cs : List Char} (h : cs.dropWhile isGap = []) :
    readParts? n cs = some [] := by
  rw [readParts?.eq_def]
  simp only [h]

theorem readParts?_block {n : ℕ} {cs block inner rest : List Char}
    (h : cs.dropWhile isGap = '{' :: block)
    (hscan : Literal.scanBlock ('{' :: block) = some (inner, rest)) :
    readParts? (n + 1) cs =
      (readParts? n rest).map (.literal (String.ofList (Literal.normalize inner)) :: ·) := by
  rw [readParts?.eq_def]
  simp only [h, hscan]

theorem readParts?_other {n : ℕ} {cs : List Char} (hnil : cs.dropWhile isGap ≠ [])
    (hblock : ∀ block, cs.dropWhile isGap ≠ '{' :: block) :
    readParts? n cs = match n with
      | 0 => none
      | n + 1 =>
        if isName ((cs.dropWhile isGap).takeWhile fun c => !endsName c) then
          (readParts? n ((cs.dropWhile isGap).dropWhile fun c => !endsName c)).map
            (.name (String.ofList ((cs.dropWhile isGap).takeWhile fun c => !endsName c)) :: ·)
        else none := by
  rw [readParts?.eq_def]
  dsimp only
  split
  · rename_i h
    exact absurd h hnil
  · rename_i block h
    exact absurd h (hblock block)
  · rfl

theorem readParts?_name {n : ℕ} {cs : List Char} (hnil : cs.dropWhile isGap ≠ [])
    (hblock : ∀ block, cs.dropWhile isGap ≠ '{' :: block)
    (hname : isName ((cs.dropWhile isGap).takeWhile fun c => !endsName c)) :
    readParts? (n + 1) cs =
      (readParts? n ((cs.dropWhile isGap).dropWhile fun c => !endsName c)).map
        (.name (String.ofList ((cs.dropWhile isGap).takeWhile fun c => !endsName c)) :: ·) := by
  rw [readParts?_other hnil hblock]
  exact if_pos hname

/-- A part is read where it stands, after spaces and tabs. -/
theorem Element.readParts?_append {front : List Char} {p : Part} (h : Element front p) {n : ℕ}
    {gap rest : List Char} (hgap : ∀ c ∈ gap, isGap c)
    (hstop : p.isLiteral = false → ∀ c ∈ rest.head?, endsName c) :
    readParts? (n + 1) (gap ++ (front ++ rest)) = (readParts? n rest).map (p :: ·) := by
  obtain ⟨c, cs, hcs, hc⟩ := h.exists_head
  have hgapEnd : ∀ d ∈ (front ++ rest).head?, isGap d = false := by
    rw [hcs]
    rintro d ⟨⟩
    split at hc
    · rw [hc]
      rfl
    · exact isGap_of_isNameChar c hc
  have hdrop := dropWhile_append_stop hgap hgapEnd
  cases h with
  | @block inner hinner =>
    rw [List.append_assoc] at hdrop ⊢
    exact readParts?_block hdrop (Literal.scanBlock_eq_some_iff_items.2 ⟨hinner, rfl⟩)
  | name hname =>
    have hall : ∀ d ∈ front, (fun c => !endsName c) d := by
      intro d hd
      simp [endsName_of_isNameChar (isNameChar_of_isName hname d hd)]
    have hend : ∀ d ∈ rest.head?, (fun c => !endsName c) d = false := by
      intro d hd
      simp [hstop rfl d hd]
    have htake := takeWhile_append_stop hall hend
    rw [readParts?_name, hdrop, htake, dropWhile_append_stop hall hend]
    · rw [hdrop, hcs]
      simp
    · intro block hblock
      rw [hdrop, hcs] at hblock
      exact ne_of_isNameChar hc (by decide) (List.cons.inj hblock).1
    · rw [hdrop, htake]
      exact hname

/-- A row of parts is read, with spaces and tabs around it. -/
theorem Row.readParts?_append {cs : List Char} {parts : List Part} (h : Row cs parts) {n : ℕ}
    (hn : parts.length ≤ n) {front rest : List Char} (hfront : ∀ c ∈ front, isGap c)
    (hrest : ∀ c ∈ rest, isGap c) : readParts? n (front ++ (cs ++ rest)) = some parts := by
  have hends : ∀ gap : List Char, (∀ c ∈ gap, isGap c) → ∀ c ∈ gap.head?, endsName c :=
    fun gap hgap c hc => endsName_of_isGap (hgap c (List.mem_of_mem_head? hc))
  induction h generalizing n front with
  | @single cs p hcs =>
    obtain ⟨n, rfl⟩ : ∃ k, n = k + 1 := ⟨n - 1, by rw [List.length_singleton] at hn; omega⟩
    rw [hcs.readParts?_append hfront fun _ => hends rest hrest,
      readParts?_nil (List.dropWhile_eq_nil_iff.2 hrest), Option.map_some]
  | @cons first gap cs p q parts hfirst hgap hbeside hcs ih =>
    rw [List.length_cons] at hn
    obtain ⟨n, rfl⟩ : ∃ k, n = k + 1 := ⟨n - 1, by omega⟩
    -- a name ends at the gap behind it, or else at the brace of a block
    have hstop : p.isLiteral = false → ∀ c ∈ (gap ++ (cs ++ rest)).head?, endsName c := by
      intro hp c hc
      cases gap with
      | nil =>
        obtain ⟨d, ds, rfl, hd⟩ := hcs.exists_head
        have hq : q.isLiteral := (hbeside rfl).resolve_left (by simp [hp])
        rw [if_pos hq] at hd
        obtain rfl := Option.some.inj hc
        rw [hd]
        rfl
      | cons d ds => exact hends (d :: ds) hgap c hc
    rw [List.append_assoc, List.append_assoc, hfirst.readParts?_append hfront hstop,
      ih (by omega) hgap, Option.map_some]

/-- The text is a row of parts with spaces and tabs around it, or these alone. -/
def Spread (cs : List Char) (parts : List Part) : Prop :=
  (parts = [] ∧ ∀ c ∈ cs, isGap c) ∨
    ∃ front row rest, (∀ c ∈ front, isGap c) ∧ (∀ c ∈ rest, isGap c) ∧
      cs = front ++ (row ++ rest) ∧ Row row parts

theorem Spread.cons {cs front gap : List Char} {p : Part} {parts : List Part}
    (hgap : ∀ c ∈ gap, isGap c) (hfront : Element front p)
    (hstop : p.isLiteral = false → ∀ c ∈ cs.head?, endsName c) (h : Spread cs parts) :
    Spread (gap ++ (front ++ cs)) (p :: parts) := by
  rcases h with ⟨rfl, hcs⟩ | ⟨before, row, rest, hbefore, hrest, rfl, hrow⟩
  · exact .inr ⟨gap, front, cs, hgap, hcs, rfl, .single hfront⟩
  · obtain ⟨q, parts, rfl⟩ := List.exists_cons_of_ne_nil hrow.ne_nil
    refine .inr ⟨gap, front ++ (before ++ row), rest, hgap, hrest, ?_, .cons hfront hbefore ?_ hrow⟩
    · simp only [List.append_assoc]
    · -- what stands directly behind a name is not a name
      rintro rfl
      cases hp : p.isLiteral with
      | true => exact .inl rfl
      | false =>
        obtain ⟨c, tail, rfl, hc⟩ := hrow.exists_head
        have hends : endsName c := hstop hp c rfl
        split at hc
        · rename_i hq
          exact .inr hq
        · rw [endsName_of_isNameChar hc] at hends
          simp at hends

theorem spread_of_readParts? {n : ℕ} {cs : List Char} {parts : List Part}
    (h : readParts? n cs = some parts) : Spread cs parts := by
  have hgap : ∀ cs : List Char, ∀ c ∈ cs.takeWhile isGap, isGap c := fun cs =>
    List.all_eq_true.1 List.all_takeWhile
  induction n, cs using readParts?.induct generalizing parts with
  | case1 n cs hnil =>
    rw [readParts?_nil hnil] at h
    exact .inl ⟨(Option.some.inj h).symm, List.dropWhile_eq_nil_iff.1 hnil⟩
  | case2 cs block hblock n inner rest hscan ih =>
    rw [readParts?_block hblock hscan] at h
    obtain ⟨more, hmore, rfl⟩ := Option.map_eq_some_iff.1 h
    obtain ⟨hinner, heq⟩ := Literal.scanBlock_eq_some_iff_items.1 hscan
    have hspread := (ih hmore).cons (hgap cs) (.block hinner) (by simp [Part.isLiteral])
    rw [List.append_assoc, List.singleton_append, ← heq, ← hblock,
      List.takeWhile_append_dropWhile] at hspread
    exact hspread
  | case3 n cs block hblock hscan =>
    rw [readParts?.eq_def] at h
    simp only [hblock] at h
    simp at h
  | case4 cs hnil hblock =>
    rw [readParts?_other hnil hblock] at h
    simp at h
  | case5 cs n hnil hblock name hname =>
    rename_i ih
    rw [readParts?_name hnil hblock hname] at h
    obtain ⟨more, hmore, rfl⟩ := Option.map_eq_some_iff.1 h
    have hstop : ∀ c ∈ ((cs.dropWhile isGap).dropWhile fun c => !endsName c).head?, endsName c := by
      intro c hc
      simpa using head?_dropWhile (fun c => !endsName c) _ c hc
    have hspread := (ih hmore).cons (hgap cs) (.name hname) fun _ => hstop
    rw [List.takeWhile_append_dropWhile, List.takeWhile_append_dropWhile] at hspread
    exact hspread
  | case6 cs n hnil hblock name =>
    rename_i hname
    rw [readParts?_other hnil hblock] at h
    dsimp only at h
    rw [if_neg hname] at h
    simp at h

theorem Row.readComposition?_eq {cs : List Char} {parts : List Part} (h : Row cs parts)
    (hlength : 2 ≤ parts.length) : readComposition? cs = some parts := by
  have hgap : ∀ c ∈ ([] : List Char), isGap c := by simp
  have hread := h.readParts?_append h.length_le hgap hgap
  rw [List.nil_append, List.append_nil] at hread
  rw [readComposition?, hread]
  exact if_pos hlength

/-- Nothing else is read as a composition. -/
theorem readComposition?_eq_none {cs : List Char} (hcs : Trimmed isGap cs)
    (h : ¬IsComposition cs) : readComposition? cs = none := by
  rw [Option.eq_none_iff_forall_ne_some]
  intro parts hread
  unfold readComposition? at hread
  split at hread
  · rename_i parts' hparts
    split at hread
    · rename_i hlength
      rcases spread_of_readParts? hparts with ⟨rfl, -⟩ |
        ⟨front, row, rest, hfront, hrest, heq, hrow⟩
      · simp at hlength
      · rw [heq, ← List.append_assoc] at hcs
        obtain ⟨rfl, rfl⟩ := hcs.eq_nil hfront hrest
        obtain rfl : cs = row := by rw [heq, List.append_nil, List.nil_append]
        exact h ⟨parts', hrow, hlength⟩
    · simp at hread
  · simp at hread

/-! ## Descriptions -/

/-- Each text can be read as something. -/
theorem exists_reads (cs : List Char) : ∃ result, Reads cs result := by
  by_cases hrepetition : IsRepetition cs
  · obtain ⟨name, low, high, hcs⟩ := hrepetition
    by_cases hlow : 2 ^ 32 ≤ ofDigitChars 10 low 0
    · exact ⟨_, .lowOutOfRange hcs hlow⟩
    have hlow' := Nat.lt_of_not_le hlow
    cases high with
    | none =>
      have hmax : Option.map UInt32.toNat none =
          (none : Option (List Char)).map (ofDigitChars 10 · 0) := rfl
      exact ⟨_, .repetition hcs (UInt32.toNat_ofNat_of_lt' hlow') hmax⟩
    | some high =>
      by_cases hhigh : 2 ^ 32 ≤ ofDigitChars 10 high 0
      · exact ⟨_, .highOutOfRange hcs hlow' hhigh⟩
      · have hmax : (some (UInt32.ofNat (ofDigitChars 10 high 0))).map UInt32.toNat =
            (some high).map (ofDigitChars 10 · 0) :=
          congrArg some (UInt32.toNat_ofNat_of_lt' (Nat.lt_of_not_le hhigh))
        exact ⟨_, .repetition hcs (UInt32.toNat_ofNat_of_lt' hlow') hmax⟩
  by_cases hchoice : IsChoice cs
  · obtain ⟨names, hcs, hlength⟩ := hchoice
    exact ⟨_, .choice hrepetition hcs hlength⟩
  by_cases hliteral : IsLiteral cs
  · obtain ⟨inner, hinner, hcs⟩ := hliteral
    exact ⟨_, .literal hrepetition hchoice hinner hcs⟩
  by_cases hcomposition : IsComposition cs
  · obtain ⟨parts, hcs, hlength⟩ := hcomposition
    exact ⟨_, .composition hrepetition hchoice hliteral hcs hlength⟩
  · exact ⟨_, .unrecognized hrepetition hchoice hliteral hcomposition⟩

theorem readChars_of_repeats {cs name low : List Char} {high : Option (List Char)}
    (h : Repeats cs name low high) : readChars cs =
      (boundsOf low high).map fun bounds =>
        repetition (String.ofList name) bounds.1 bounds.2 := by
  obtain ⟨count, hread, hbounds⟩ := h.exists_count
  rw [readChars, hread]
  dsimp only
  rw [hbounds]
  cases boundsOf low high <;> rfl

theorem readChars_of_reads {cs : List Char} {result : Except DescriptionError Description}
    (hcs : Trimmed isGap cs) (h : Reads cs result) : readChars cs = result := by
  cases h with
  | repetition hrepeats hmin hmax =>
    rw [readChars_of_repeats hrepeats, boundsOf_eq_ok hmin hmax]
    rfl
  | lowOutOfRange hrepeats hlow =>
    rw [readChars_of_repeats hrepeats, boundsOf_low hlow]
    rfl
  | highOutOfRange hrepeats hlow hhigh =>
    rw [readChars_of_repeats hrepeats, boundsOf_high hlow hhigh]
    rfl
  | choice hrepetition hrow hlength =>
    rw [readChars, readRepetition?_eq_none hrepetition, hrow.readChoice?_eq hlength]
  | literal hrepetition hchoice hinner heq =>
    rw [readChars, readRepetition?_eq_none hrepetition, readChoice?_eq_none hcs hchoice, heq,
      readLiteral?_eq hinner]
  | composition hrepetition hchoice hliteral hrow hlength =>
    rw [readChars, readRepetition?_eq_none hrepetition, readChoice?_eq_none hcs hchoice,
      readLiteral?_eq_none hliteral, hrow.readComposition?_eq hlength]
  | unrecognized hrepetition hchoice hliteral hcomposition =>
    rw [readChars, readRepetition?_eq_none hrepetition, readChoice?_eq_none hcs hchoice,
      readLiteral?_eq_none hliteral, readComposition?_eq_none hcs hcomposition]

/-- The reader gives what the grammar says. -/
theorem readChars_eq_iff {cs : List Char} (hcs : Trimmed isBlank cs)
    {result : Except DescriptionError Description} : readChars cs = result ↔ Reads cs result := by
  have hgap : Trimmed isGap cs := hcs.mono fun _ => isBlank_of_isGap
  constructor
  · rintro rfl
    obtain ⟨result, hreads⟩ := exists_reads cs
    rw [readChars_of_reads hgap hreads]
    exact hreads
  · exact readChars_of_reads hgap

/-- Reading gives, for any text, exactly what the grammar says of the text without the blanks at its
ends. -/
theorem read_eq_iff (text : String) (result : Except DescriptionError Description) :
    read text = result ↔ Reads (trimChars text.toList) result := by
  rw [read, trimChars, readChars_eq_iff (trimmed_trim isBlank text.toList)]

example : read "a{3}" = .ok (.repetition "a" 3 (some 3)) := by decide +kernel

example : read "a {3}" = .ok (.composition [.name "a", .literal "3"]) := by decide +kernel

end PatternGrammar.Description
