import Mathlib.Data.Nat.Notation
import PatternGrammar.Literal.Normal
import PatternGrammar.Proofs.Literal.Blocks

/-!
# Normal forms of literals

A text in normal form is a row of escapes, classes and plain characters in which a class holds no
escape that stands for a character with a meaning in classes (`NormalForm`). The normal form of what
stands between the braces of a block is such a text, and these texts stay as they are.

Main results:

* `NormalForm.normalFrom_eq`: a text in normal form is its own normal form.
* `normalForm_normalFrom`: the normal form of the text of a block is in normal form, and a scan
  comes to the end of the block there too.
* `normalize_stable`: a block with the normal form in it is scanned as it stands, and its text stays.
-/

namespace PatternGrammar.Literal

open ScanState

/-- The characters that begin an escape or a class, or end a class. -/
def isMark (c : Char) : Bool := c == '\\' || c == '[' || c == ']'

/-- The escapes that are written by code point inside a class. -/
def isClassEscape (c : Char) : Bool :=
  c == 'n' || c == 't' || c == '\\' || c == '[' || c == ']' || c == '^'

/-- The text is what remains of a literal in normal form, inside or outside of a class. -/
inductive NormalForm : Bool → List Char → Prop where
  | nil : NormalForm false []
  | unit {inClass : Bool} {cs : List Char} (hunit : startsWithUnit cs)
    (hcs : NormalForm inClass cs) : NormalForm inClass ('\\' :: 'u' :: cs)
  | escape {inClass : Bool} {c : Char} {cs : List Char} (hu : c ≠ 'u')
    (hclass : inClass → isClassEscape c = false) (hcs : NormalForm inClass cs) :
    NormalForm inClass ('\\' :: c :: cs)
  | opened {cs : List Char} (hcs : NormalForm true cs) : NormalForm false ('[' :: cs)
  | negated {cs : List Char} (hcs : NormalForm true cs) : NormalForm false ('[' :: '^' :: cs)
  | closed {cs : List Char} (hcs : NormalForm false cs) : NormalForm true (']' :: cs)
  | plain {inClass : Bool} {c : Char} {cs : List Char} (hmark : isMark c = false)
    (hclass : inClass → c ≠ '^') (hcs : NormalForm inClass cs) : NormalForm inClass (c :: cs)

/-! ## Equations -/

theorem isMark_eq_false_iff {c : Char} : isMark c = false ↔ c ≠ '\\' ∧ c ≠ '[' ∧ c ≠ ']' := by
  simp [isMark, and_assoc]

/-- A character without a meaning of its own stays. -/
theorem normalFrom_plain {inClass : Bool} {c : Char} {cs : List Char} (hmark : isMark c = false)
    (hclass : inClass → c ≠ '^') : normalFrom inClass (c :: cs) = c :: normalFrom inClass cs := by
  obtain ⟨hescape, hopen, hclose⟩ := isMark_eq_false_iff.1 hmark
  by_cases hcaret : c = '^'
  · subst hcaret
    cases inClass with
    | false => rw [normalFrom.eq_8, if_neg (by decide)]
    | true => exact absurd rfl (hclass rfl)
  · exact normalFrom.eq_9 inClass c cs (fun h _ => hescape h) (fun _ h _ => hescape h)
      (fun _ _ h _ => hescape h) hopen hclose hcaret

theorem normalFrom_open_class (cs : List Char) :
    normalFrom true ('[' :: cs) = codePoint '[' ++ normalFrom true cs := by
  by_cases hcaret : ∃ rest, cs = '^' :: rest
  · obtain ⟨rest, rfl⟩ := hcaret
    rw [normalFrom.eq_5, if_pos rfl]
  · rw [normalFrom.eq_6 true cs fun rest h => hcaret ⟨rest, h⟩, if_pos rfl]

theorem NormalForm.ne_caret {cs : List Char} (h : NormalForm true cs) :
    ∀ rest, cs = '^' :: rest → False := by
  rintro rest rfl
  cases h with
  | plain hmark hclass hcs => exact hclass rfl rfl

/-- A text in normal form is its own normal form. -/
theorem NormalForm.normalFrom_eq {inClass : Bool} {cs : List Char} (h : NormalForm inClass cs) :
    normalFrom inClass cs = cs := by
  induction h with
  | nil => rfl
  | unit hunit _ ih => rw [normalFrom.eq_3, if_pos hunit, ih]
  | @escape inClass c cs hu hclass _ ih =>
    rw [normalFrom.eq_4 inClass c cs hu, ih]
    cases inClass with
    | false => rfl
    | true =>
      have hc := hclass rfl
      simp only [isClassEscape, Bool.or_eq_false_iff, beq_eq_false_iff_ne] at hc
      simp [Literal.escape, hc]
  | @opened cs hcs ih => rw [normalFrom.eq_6 false cs hcs.ne_caret, if_neg (by decide), ih]
  | negated _ ih => rw [normalFrom.eq_5, if_neg (by decide), ih]
  | closed _ ih => rw [normalFrom.eq_7, if_pos rfl, ih]
  | plain hmark hclass _ ih => rw [normalFrom_plain hmark hclass, ih]

/-! ## Code points -/

theorem isMark_of_isHexDigit {c : Char} (h : isHexDigit c) : isMark c = false ∧ c ≠ '^' := by
  have hne : ∀ d : Char, isHexDigit d = false → c ≠ d := by
    rintro d hd rfl
    rw [h] at hd
    simp at hd
  refine ⟨isMark_eq_false_iff.2 ⟨hne _ ?_, hne _ ?_, hne _ ?_⟩, hne _ ?_⟩ <;> decide

theorem isHexDigit_hexDigit {n : ℕ} (h : n < 16) : isHexDigit (hexDigit n) := by
  have hall : ∀ n < 16, isHexDigit (hexDigit n) := by decide
  exact hall n h

theorem NormalForm.hex {inClass : Bool} {c : Char} {cs : List Char} (hc : isHexDigit c)
    (h : NormalForm inClass cs) : NormalForm inClass (c :: cs) :=
  .plain (isMark_of_isHexDigit hc).1 (fun _ => (isMark_of_isHexDigit hc).2) h

theorem NormalForm.codePoint {inClass : Bool} {cs : List Char} (c : Char)
    (h : NormalForm inClass cs) : NormalForm inClass (Literal.codePoint c ++ cs) := by
  have hdigit : ∀ n, isHexDigit (hexDigit (n % 16)) := fun n =>
    isHexDigit_hexDigit (Nat.mod_lt n (by decide))
  refine .unit ?_ (.hex (hdigit _) (.hex (hdigit _) (.hex (hdigit _) (.hex (hdigit _) h))))
  simp [startsWithUnit, hdigit]

/-- The digits of a code point stay. -/
theorem startsWithUnit_normalFrom {inClass : Bool} {cs : List Char} (h : startsWithUnit cs) :
    startsWithUnit (normalFrom inClass cs) := by
  unfold startsWithUnit at h
  split at h
  · rename_i a b c d rest
    simp only [Bool.and_eq_true] at h
    have hstay : ∀ {c : Char} {cs : List Char}, isHexDigit c →
        normalFrom inClass (c :: cs) = c :: normalFrom inClass cs := fun hc =>
      normalFrom_plain (isMark_of_isHexDigit hc).1 fun _ => (isMark_of_isHexDigit hc).2
    rw [hstay h.1.1.1, hstay h.1.1.2, hstay h.1.2, hstay h.2]
    simp [startsWithUnit, h]
  · simp at h

/-! ## Scans between characters -/

/-- The state inside or outside of a class, with a number of inner braces open. -/
def between (inClass : Bool) (depth : ℕ) : ScanState := ⟨false, inClass, depth⟩

theorem after?_escape (inClass : Bool) (depth : ℕ) (c : Char) (cs : List Char) :
    (between inClass depth).after? ('\\' :: c :: cs) = (between inClass depth).after? cs := rfl

theorem after?_open (inClass : Bool) (depth : ℕ) (cs : List Char) :
    (between inClass depth).after? ('[' :: cs) = (between true depth).after? cs := rfl

theorem after?_close (inClass : Bool) (depth : ℕ) (cs : List Char) :
    (between inClass depth).after? (']' :: cs) = (between false depth).after? cs := rfl

/-- A character that is no mark leads from between characters to between characters, where it does
not close the block. -/
theorem next?_plain {c : Char} (h : isMark c = false) (inClass : Bool) (depth : ℕ) :
    (between inClass depth).next? c = none ∨
      ∃ depth', (between inClass depth).next? c = some (between inClass depth') := by
  obtain ⟨hescape, hopen, hclose⟩ := isMark_eq_false_iff.1 h
  unfold next? between
  simp only [Bool.false_eq_true, if_false, if_neg hescape, if_neg hopen, if_neg hclose]
  split
  · exact .inr ⟨depth + 1, rfl⟩
  · split
    · split
      · exact .inl rfl
      · exact .inr ⟨depth - 1, rfl⟩
    · exact .inr ⟨depth, rfl⟩

/-- Hexadecimal digits and other characters that are neither marks nor braces say nothing. -/
theorem after?_plain {c : Char} (hmark : isMark c = false) (hbraces : c ≠ '\x7b' ∧ c ≠ '\x7d')
    (inClass : Bool) (depth : ℕ) (cs : List Char) :
    (between inClass depth).after? (c :: cs) = (between inClass depth).after? cs := by
  obtain ⟨hescape, hopen, hclose⟩ := isMark_eq_false_iff.1 hmark
  simp [after?, next?, between, hescape, hopen, hclose, hbraces]

theorem after?_codePoint (inClass : Bool) (depth : ℕ) (c : Char) (cs : List Char) :
    (between inClass depth).after? (codePoint c ++ cs) = (between inClass depth).after? cs := by
  have hdigit : ∀ (n : ℕ) (cs : List Char),
      (between inClass depth).after? (hexDigit (n % 16) :: cs) =
        (between inClass depth).after? cs := by
    intro n cs
    have hhex : isHexDigit (hexDigit (n % 16)) := isHexDigit_hexDigit (Nat.mod_lt n (by decide))
    refine after?_plain (isMark_of_isHexDigit hhex).1 ⟨?_, ?_⟩ inClass depth cs
    · intro h
      rw [h] at hhex
      exact absurd hhex (by decide)
    · intro h
      rw [h] at hhex
      exact absurd hhex (by decide)
  show (between inClass depth).after? ('\\' :: 'u' :: _ :: _ :: _ :: _ :: cs) = _
  rw [after?_escape, hdigit, hdigit, hdigit, hdigit]

/-- What an escape is turned into is skipped like the escape. -/
theorem after?_escaped (inClass : Bool) (depth : ℕ) (c : Char) (cs : List Char) :
    (between inClass depth).after? (escape inClass c ++ cs) =
      (between inClass depth).after? cs := by
  unfold escape
  split
  · split
    · exact after?_codePoint inClass depth '\n' cs
    · split
      · exact after?_codePoint inClass depth '\t' cs
      · split
        · exact after?_codePoint inClass depth c cs
        · rfl
  · rfl

theorem after?_bareUnit (inClass : Bool) (depth : ℕ) (cs : List Char) :
    (between inClass depth).after? (bareUnit inClass ++ cs) =
      (between inClass depth).after? cs := by
  have hu : ∀ cs, (between inClass depth).after? ('u' :: cs) = (between inClass depth).after? cs :=
    after?_plain (by decide) (by decide) inClass depth
  unfold bareUnit
  split
  · rw [List.append_assoc, after?_codePoint]
    exact hu cs
  · exact hu cs

theorem normalForm_escape {inClass : Bool} {c : Char} {cs : List Char} (hu : c ≠ 'u')
    (h : NormalForm inClass cs) : NormalForm inClass (escape inClass c ++ cs) := by
  unfold escape
  split
  · split
    · exact .codePoint '\n' h
    · split
      · exact .codePoint '\t' h
      · split
        · exact .codePoint c h
        · refine .escape hu (fun _ => ?_) h
          simp_all [isClassEscape]
  · rename_i hclass
    exact .escape hu (fun h => absurd h hclass) h

theorem normalForm_bareUnit {inClass : Bool} {cs : List Char} (h : NormalForm inClass cs) :
    NormalForm inClass (bareUnit inClass ++ cs) := by
  have hu : NormalForm inClass ('u' :: cs) := .plain (by decide) (fun _ => by decide) h
  unfold bareUnit
  split
  · rw [List.append_assoc]
    exact .codePoint '\\' hu
  · rename_i hclass
    exact .escape (by decide) (fun h => absurd h hclass) hu

/-! ## The normal form of a block -/

/-- Where the text leads back to the state that blocks begin with, its normal form is in normal form
and leads there too. -/
theorem normalForm_normalFrom {inClass : Bool} {depth : ℕ} {cs : List Char}
    (h : (between inClass depth).after? cs = some {}) :
    NormalForm inClass (normalFrom inClass cs) ∧
      (between inClass depth).after? (normalFrom inClass cs) = some {} := by
  induction inClass, cs using normalFrom.induct generalizing depth with
  | case1 inClass =>
    have hstate : between inClass depth = {} := Option.some.inj h
    obtain ⟨rfl, rfl⟩ : inClass = false ∧ depth = 0 := by simpa [between] using hstate
    exact ⟨.nil, rfl⟩
  | case2 inClass =>
    have hstate := Option.some.inj h
    simp [between] at hstate
  | case3 inClass rest hunit ih =>
    rw [after?_escape] at h
    obtain ⟨hform, hafter⟩ := ih h
    rw [normalFrom.eq_3, if_pos hunit, after?_escape]
    exact ⟨.unit (startsWithUnit_normalFrom hunit) hform, hafter⟩
  | case4 inClass rest hunit ih =>
    rw [after?_escape] at h
    obtain ⟨hform, hafter⟩ := ih h
    rw [normalFrom.eq_3, if_neg hunit, after?_bareUnit]
    exact ⟨normalForm_bareUnit hform, hafter⟩
  | case5 inClass c rest hu ih =>
    rw [after?_escape] at h
    obtain ⟨hform, hafter⟩ := ih h
    rw [normalFrom.eq_4 inClass c rest hu, after?_escaped]
    exact ⟨normalForm_escape hu hform, hafter⟩
  | case6 rest ih =>
    rw [after?_open] at h
    obtain ⟨hform, hafter⟩ := ih h
    rw [normalFrom_open_class, after?_codePoint]
    exact ⟨.codePoint '[' hform, hafter⟩
  | case7 inClass hclass rest ih =>
    obtain rfl : inClass = false := by simpa using hclass
    have hcaret : ∀ cs, (between true depth).after? ('^' :: cs) = (between true depth).after? cs :=
      after?_plain (by decide) (by decide) true depth
    rw [after?_open, hcaret] at h
    obtain ⟨hform, hafter⟩ := ih h
    rw [normalFrom.eq_5, if_neg hclass, after?_open, hcaret]
    exact ⟨.negated hform, hafter⟩
  | case8 inClass hclass rest hrest ih =>
    obtain rfl : inClass = false := by simpa using hclass
    rw [after?_open] at h
    obtain ⟨hform, hafter⟩ := ih h
    rw [normalFrom.eq_6 false rest hrest, if_neg hclass, after?_open]
    exact ⟨.opened hform, hafter⟩
  | case9 rest ih =>
    rw [after?_close] at h
    obtain ⟨hform, hafter⟩ := ih h
    rw [normalFrom.eq_7, if_pos rfl, after?_close]
    exact ⟨.closed hform, hafter⟩
  | case10 inClass rest hclass ih =>
    obtain rfl : inClass = false := by simpa using hclass
    rw [after?_close] at h
    obtain ⟨hform, hafter⟩ := ih h
    rw [normalFrom.eq_7, if_neg hclass, after?_escape]
    exact ⟨.escape (by decide) (fun h => absurd h hclass) hform, hafter⟩
  | case11 rest ih =>
    rw [after?_plain (by decide) (by decide)] at h
    obtain ⟨hform, hafter⟩ := ih h
    rw [normalFrom.eq_8, if_pos rfl, after?_codePoint]
    exact ⟨.codePoint '^' hform, hafter⟩
  | case12 inClass rest hclass ih =>
    obtain rfl : inClass = false := by simpa using hclass
    rw [after?_plain (by decide) (by decide)] at h
    obtain ⟨hform, hafter⟩ := ih h
    rw [normalFrom.eq_8, if_neg hclass, after?_plain (by decide) (by decide)]
    exact ⟨.plain (by decide) (fun h => absurd h hclass) hform, hafter⟩
  | case13 inClass c rest hend hunit hescape hopen hclose hcaret ih =>
    have hmark : isMark c = false := by
      refine isMark_eq_false_iff.2 ⟨fun hc => ?_, hopen, hclose⟩
      cases rest with
      | nil => exact hend hc rfl
      | cons c' rest => exact hescape c' rest hc rfl
    rw [normalFrom_plain hmark fun _ => hcaret, after?]
    rw [after?] at h
    rcases next?_plain hmark inClass depth with hnext | ⟨depth', hnext⟩
    · rw [hnext] at h
      simp at h
    · rw [hnext] at h ⊢
      obtain ⟨hform, hafter⟩ := ih h
      exact ⟨.plain hmark (fun _ => hcaret) hform, hafter⟩

/-! ## The characters of a normal form -/

/-- The characters that code points are written with. -/
def isEscapeChar (c : Char) : Bool := c == '\\' || c == 'u' || isHexDigit c

theorem isEscapeChar_of_mem_codePoint {c x : Char} (h : x ∈ codePoint c) : isEscapeChar x := by
  have hdigit : ∀ n, isHexDigit (hexDigit (n % 16)) := fun n =>
    isHexDigit_hexDigit (Nat.mod_lt n (by decide))
  simp only [codePoint, List.mem_cons, List.not_mem_nil, or_false] at h
  rcases h with rfl | rfl | rfl | rfl | rfl | rfl <;> simp [isEscapeChar, hdigit]

theorem mem_escape {inClass : Bool} {c x : Char} (h : x ∈ escape inClass c) :
    x = c ∨ isEscapeChar x := by
  have hpair : x ∈ ['\\', c] → x = c ∨ isEscapeChar x := by
    intro h
    rcases List.mem_cons.1 h with rfl | h
    · exact .inr rfl
    · exact .inl (List.mem_singleton.1 h)
  unfold escape at h
  split at h
  · split at h
    · exact .inr (isEscapeChar_of_mem_codePoint h)
    · split at h
      · exact .inr (isEscapeChar_of_mem_codePoint h)
      · split at h
        · exact .inr (isEscapeChar_of_mem_codePoint h)
        · exact hpair h
  · exact hpair h

theorem isEscapeChar_of_mem_bareUnit {inClass : Bool} {x : Char} (h : x ∈ bareUnit inClass) :
    isEscapeChar x := by
  unfold bareUnit at h
  split at h
  · rcases List.mem_append.1 h with h | h
    · exact isEscapeChar_of_mem_codePoint h
    · obtain rfl := List.mem_singleton.1 h
      rfl
  · simp only [List.mem_cons, List.not_mem_nil, or_false] at h
    rcases h with rfl | rfl | rfl <;> rfl

/-- What a normal form does not have from the text is part of an escape. -/
theorem mem_normalFrom {inClass : Bool} {cs : List Char} {x : Char}
    (h : x ∈ normalFrom inClass cs) : x ∈ cs ∨ isEscapeChar x := by
  have hstep : ∀ {token piece rest : List Char} {inClass : Bool},
      x ∈ piece ++ normalFrom inClass rest →
      (x ∈ piece → x ∈ token ∨ isEscapeChar x) →
      (x ∈ normalFrom inClass rest → x ∈ rest ∨ isEscapeChar x) →
      x ∈ token ++ rest ∨ isEscapeChar x := by
    intro token piece rest inClass h hpiece hrest
    rw [List.mem_append]
    rcases List.mem_append.1 h with h | h
    · exact (hpiece h).imp_left .inl
    · exact (hrest h).imp_left .inr
  induction inClass, cs using normalFrom.induct with
  | case1 inClass => exact .inl h
  | case2 inClass =>
    refine .inl ?_
    simpa [normalFrom] using h
  | case3 inClass rest hunit ih =>
    rw [normalFrom.eq_3, if_pos hunit] at h
    exact @hstep ['\\', 'u'] ['\\', 'u'] rest inClass h .inl ih
  | case4 inClass rest hunit ih =>
    rw [normalFrom.eq_3, if_neg hunit] at h
    exact @hstep ['\\', 'u'] _ rest inClass h (fun h => .inr (isEscapeChar_of_mem_bareUnit h)) ih
  | case5 inClass c rest hu ih =>
    rw [normalFrom.eq_4 inClass c rest hu] at h
    refine @hstep ['\\', c] _ rest inClass h (fun h => (mem_escape h).imp_left ?_) ih
    rintro rfl
    simp
  | case6 rest ih =>
    rw [normalFrom_open_class] at h
    exact @hstep ['['] _ rest true h (fun h => .inr (isEscapeChar_of_mem_codePoint h)) ih
  | case7 inClass hclass rest ih =>
    rw [normalFrom.eq_5, if_neg hclass] at h
    exact @hstep ['[', '^'] ['[', '^'] rest true h .inl ih
  | case8 inClass hclass rest hrest ih =>
    rw [normalFrom.eq_6 inClass rest hrest, if_neg hclass] at h
    exact @hstep ['['] ['['] rest true h .inl ih
  | case9 rest ih =>
    rw [normalFrom.eq_7, if_pos rfl] at h
    exact @hstep [']'] [']'] rest false h .inl ih
  | case10 inClass rest hclass ih =>
    rw [normalFrom.eq_7, if_neg hclass] at h
    refine @hstep [']'] ['\\', ']'] rest false h (fun h => ?_) ih
    rcases List.mem_cons.1 h with rfl | h
    · exact .inr rfl
    · exact .inl h
  | case11 rest ih =>
    rw [normalFrom.eq_8, if_pos rfl] at h
    exact @hstep ['^'] _ rest true h (fun h => .inr (isEscapeChar_of_mem_codePoint h)) ih
  | case12 inClass rest hclass ih =>
    rw [normalFrom.eq_8, if_neg hclass] at h
    exact @hstep ['^'] ['^'] rest false h .inl ih
  | case13 inClass c rest hend hunit hescape hopen hclose hcaret ih =>
    rw [normalFrom.eq_9 inClass c rest hend hunit hescape hopen hclose hcaret] at h
    exact @hstep [c] [c] rest inClass h .inl ih

/-- A text on one line has a normal form on one line. -/
theorem newline_not_mem_normalize {cs : List Char} (h : '\n' ∉ cs) : '\n' ∉ normalize cs := by
  intro hmem
  rcases mem_normalFrom hmem with hmem | hmem
  · exact h hmem
  · exact absurd hmem (by decide)

/-! ## Settled literals -/

/-- The text can stand between the braces of a block and is in normal form. -/
structure Settled (cs : List Char) : Prop where
  closed : after? {} cs = some {}
  normalForm : NormalForm false cs

/-- The normal form of the text of a block is settled. -/
theorem settled_of_scanBlock {cs inner rest : List Char} (h : scanBlock cs = some (inner, rest)) :
    Settled (normalize inner) := by
  obtain ⟨hafter, -⟩ := scanBlock_eq_some_iff.1 h
  obtain ⟨hform, hafter⟩ := @normalForm_normalFrom false 0 inner hafter
  exact ⟨hafter, hform⟩

/-- A block with a settled text gives the text, whatever follows. -/
theorem Settled.scanBlock_eq {cs : List Char} (h : Settled cs) (rest : List Char) :
    scanBlock ('{' :: cs ++ '}' :: rest) = some (cs, rest) :=
  scanBlock_eq_some_iff.2 ⟨h.closed, rfl⟩

theorem Settled.normalize_eq {cs : List Char} (h : Settled cs) : normalize cs = cs :=
  h.normalForm.normalFrom_eq

/-- Between braces, and whatever follows these, the normal form of the text of a block is found as it
is, with the byte behind its closing brace. It is its own normal form. -/
theorem normalize_stable {cs inner rest : List Char} (h : scanBlock cs = some (inner, rest)) :
    (∀ (text : String) (behind : List Char),
      text.toList = '{' :: normalize inner ++ '}' :: behind →
      Finds text (normalize inner) (Text.byteSize ('{' :: normalize inner ++ ['}']))) ∧
    normalize (normalize inner) = normalize inner := by
  have hsettled := settled_of_scanBlock h
  refine ⟨fun text behind htext => finds_iff.2 ⟨rfl, behind, ?_⟩, hsettled.normalize_eq⟩
  rw [htext]
  exact hsettled.scanBlock_eq behind

/-- Brackets and carets in a class, a count, a bracket that closes no class, and an escape without its
digits. -/
theorem normalize_stable_class :
    scanBlock "\x7b[^\\]^[]\x7b2\x7d]\\uq\x7d|".toList =
      some ("[^\\]^[]\x7b2\x7d]\\uq".toList, "|".toList) ∧
    normalize "[^\\]^[]\x7b2\x7d]\\uq".toList =
      "[^\\u005D\\u005E\\u005B]\x7b2\x7d\\]\\\\uq".toList ∧
    Finds "\x7b[^\\u005D\\u005E\\u005B]\x7b2\x7d\\]\\\\uq\x7d\x7d"
      "[^\\u005D\\u005E\\u005B]\x7b2\x7d\\]\\\\uq".toList 32 ∧
    normalize "[^\\u005D\\u005E\\u005B]\x7b2\x7d\\]\\\\uq".toList =
      "[^\\u005D\\u005E\\u005B]\x7b2\x7d\\]\\\\uq".toList := by
  have hscan : scanBlock "\x7b[^\\]^[]\x7b2\x7d]\\uq\x7d|".toList =
      some ("[^\\]^[]\x7b2\x7d]\\uq".toList, "|".toList) := by decide
  have hnormal : normalize "[^\\]^[]\x7b2\x7d]\\uq".toList =
      "[^\\u005D\\u005E\\u005B]\x7b2\x7d\\]\\\\uq".toList := by decide +kernel
  obtain ⟨hfinds, hfixed⟩ := normalize_stable hscan
  rw [hnormal] at hfixed hfinds
  exact ⟨hscan, hnormal, hfinds _ "\x7d".toList (by decide), hfixed⟩

end PatternGrammar.Literal
