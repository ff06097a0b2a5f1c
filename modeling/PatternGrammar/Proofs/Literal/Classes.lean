import PatternGrammar.Proofs.Literal.NormalForm

/-!
# Classes in normal forms

A pattern is read from the left: a backslash takes the next character along, and apart from that an
opening bracket begins a class and a closing bracket ends it. In a text with clean classes
(`CleanClasses`) no character is read in a place where a regular expression could give it another
meaning: a class has no bracket in it and no caret but a leading one, no bracket stands outside of a
class without a backslash, and each `\u` has its four digits.

Clean classes are said of the places of a text, one after another, and without the tokens that
`NormalForm` is built from. Still both are the same (`cleanClasses_iff`), so that the texts of blocks
that are their own normal forms are exactly the clean ones.

Main result: `normalize_clean`.
-/

namespace PatternGrammar.Literal

/-- Where a reader stands in a pattern: behind a backslash that takes the next character along, and
inside a class. -/
structure Reading where
  escaped : Bool := false
  inClass : Bool := false

namespace Reading

/-- Where the reader stands after one more character. -/
def next (r : Reading) (c : Char) : Reading :=
  if r.escaped then { r with escaped := false }
  else if c = '\\' then { r with escaped := true }
  else if c = '[' then { r with inClass := true }
  else if c = ']' then { r with inClass := false }
  else r

end Reading

/-- Where a reader stands behind a text. -/
def reading (cs : List Char) : Reading :=
  cs.foldl Reading.next {}

/-- Behind the text a class has just been opened. -/
def Opened (front : List Char) : Prop :=
  ∃ before, front = before ++ ['['] ∧ reading before = {}

/-- What a character has to keep to between the text before it and the text after it. -/
structure Fits (before : List Char) (c : Char) (after : List Char) : Prop where
  /-- A bracket without a backslash opens no class inside of another. -/
  opens : c = '[' → (reading before).escaped = false → (reading before).inClass = false
  /-- A bracket without a backslash only closes a class that is open. -/
  closes : c = ']' → (reading before).escaped = false → (reading before).inClass = true
  /-- A caret without a backslash stands in a class only behind the bracket that opens it. -/
  leads : c = '^' → reading before = ⟨false, true⟩ → Opened before
  /-- Four hexadecimal digits follow an escaped `u`. -/
  unit : c = 'u' → (reading before).escaped = true → startsWithUnit after = true
  /-- These characters are not escaped in a class. -/
  unescaped : c ∈ ['\\', '[', ']', '^', 'n', 't'] → reading before ≠ ⟨true, true⟩

/-- Each character fits where it stands, and at the end no class and no escape is open. -/
structure CleanClasses (cs : List Char) : Prop where
  fits : ∀ before c after, cs = before ++ c :: after → Fits before c after
  finished : reading cs = {}

variable {front before after cs : List Char} {inClass : Bool} {c : Char}

/-! ## Places one after another -/

theorem reading_snoc (front : List Char) (c : Char) :
    reading (front ++ [c]) = (reading front).next c := by
  rw [reading, List.foldl_append, List.foldl_cons, List.foldl_nil, reading]

/-- The characters of a text fit where they stand behind another one. -/
def FitsFrom (front cs : List Char) : Prop :=
  ∀ before c after, cs = before ++ c :: after → Fits (front ++ before) c after

theorem fitsFrom_nil (front : List Char) : FitsFrom front [] := by
  intro before c after h
  simp at h

theorem fitsFrom_cons :
    FitsFrom front (c :: cs) ↔ Fits front c cs ∧ FitsFrom (front ++ [c]) cs := by
  constructor
  · intro h
    refine ⟨by simpa using h [] c cs rfl, fun before d after hcs => ?_⟩
    rw [List.append_assoc]
    exact h (c :: before) d after (by rw [hcs, List.cons_append])
  · rintro ⟨hfirst, hrest⟩ before d after hcs
    cases before with
    | nil =>
      obtain ⟨rfl, rfl⟩ := List.cons.inj hcs
      rwa [List.append_nil]
    | cons b before =>
      obtain ⟨rfl, rfl⟩ := List.cons.inj hcs
      simpa using hrest before d after rfl

/-- What a character that is not escaped has to keep to. -/
theorem fits_iff_of_plain (h : reading before = ⟨false, inClass⟩) :
    Fits before c after ↔ (c = '[' → inClass = false) ∧ (c = ']' → inClass = true) ∧
      (c = '^' → inClass = true → Opened before) := by
  constructor
  · intro hfits
    have hopens := hfits.opens
    have hcloses := hfits.closes
    have hleads := hfits.leads
    rw [h] at hopens hcloses hleads
    exact ⟨fun hc => hopens hc rfl, fun hc => hcloses hc rfl,
      fun hc hclass => hleads hc (by rw [hclass])⟩
  · rintro ⟨hopens, hcloses, hleads⟩
    constructor <;> rw [h]
    · exact fun hc _ => hopens hc
    · exact fun hc _ => hcloses hc
    · exact fun hc hclass => hleads hc (Reading.mk.inj hclass).2
    · simp
    · simp

/-- What a character behind a backslash has to keep to. -/
theorem fits_iff_of_escaped (h : reading before = ⟨true, inClass⟩) :
    Fits before c after ↔ (c = 'u' → startsWithUnit after = true) ∧
      (inClass = true → isClassEscape c = false) := by
  have hescape : isClassEscape c = false ↔ c ∉ ['\\', '[', ']', '^', 'n', 't'] := by
    simp only [isClassEscape, Bool.or_eq_false_iff, beq_eq_false_iff_ne, List.mem_cons,
      List.not_mem_nil, or_false, not_or]
    grind
  rw [hescape]
  constructor
  · intro hfits
    have hunit := hfits.unit
    have hunescaped := hfits.unescaped
    rw [h] at hunit hunescaped
    exact ⟨fun hc => hunit hc rfl, fun hclass hc => hunescaped hc (by rw [hclass])⟩
  · rintro ⟨hunit, hclass⟩
    constructor <;> rw [h]
    · simp
    · simp
    · simp
    · exact fun hc _ => hunit hc
    · exact fun hc heq => hclass (Reading.mk.inj heq).2 hc

/-! ## Tokens -/

/-- A reader goes on behind a character that is escaped. -/
theorem reading_escape (h : reading front = ⟨false, inClass⟩) (c : Char) :
    reading (front ++ ['\\']) = ⟨true, inClass⟩ ∧
      reading (front ++ ['\\'] ++ [c]) = ⟨false, inClass⟩ := by
  have hslash : reading (front ++ ['\\']) = ⟨true, inClass⟩ := by
    rw [reading_snoc, h]
    rfl
  refine ⟨hslash, ?_⟩
  rw [reading_snoc, hslash]
  rfl

theorem reading_open (h : reading front = ⟨false, inClass⟩) :
    reading (front ++ ['[']) = ⟨false, true⟩ := by
  rw [reading_snoc, h]
  rfl

theorem reading_close (h : reading front = ⟨false, inClass⟩) :
    reading (front ++ [']']) = ⟨false, false⟩ := by
  rw [reading_snoc, h]
  rfl

theorem reading_plain (h : reading front = ⟨false, inClass⟩) (hc : isMark c = false) :
    reading (front ++ [c]) = ⟨false, inClass⟩ := by
  obtain ⟨hslash, hopen, hclose⟩ := isMark_eq_false_iff.1 hc
  rw [reading_snoc, h]
  simp [Reading.next, hslash, hopen, hclose]

/-- An escape fits if what it escapes does. -/
theorem fitsFrom_escape (h : reading front = ⟨false, inClass⟩) :
    FitsFrom front ('\\' :: c :: cs) ↔ (c = 'u' → startsWithUnit cs = true) ∧
      (inClass = true → isClassEscape c = false) ∧ FitsFrom (front ++ ['\\'] ++ [c]) cs := by
  rw [fitsFrom_cons, fitsFrom_cons, fits_iff_of_plain h, fits_iff_of_escaped (reading_escape h c).1]
  simp [and_assoc]

/-- A character that is no mark fits outside of classes, and a caret only at the start of one. -/
theorem fitsFrom_plain (h : reading front = ⟨false, inClass⟩) (hc : isMark c = false) :
    FitsFrom front (c :: cs) ↔
      (c = '^' → inClass = true → Opened front) ∧ FitsFrom (front ++ [c]) cs := by
  obtain ⟨-, hopen, hclose⟩ := isMark_eq_false_iff.1 hc
  rw [fitsFrom_cons, fits_iff_of_plain h]
  simp [hopen, hclose]

theorem fitsFrom_open (h : reading front = ⟨false, inClass⟩) :
    FitsFrom front ('[' :: cs) ↔ inClass = false ∧ FitsFrom (front ++ ['[']) cs := by
  rw [fitsFrom_cons, fits_iff_of_plain h]
  simp

theorem fitsFrom_close (h : reading front = ⟨false, inClass⟩) :
    FitsFrom front (']' :: cs) ↔ inClass = true ∧ FitsFrom (front ++ [']']) cs := by
  rw [fitsFrom_cons, fits_iff_of_plain h]
  simp

/-! ## Normal forms have clean classes -/

theorem reading_append_cons (front : List Char) (c : Char) (cs : List Char) :
    reading (front ++ c :: cs) = reading (front ++ [c] ++ cs) := by
  rw [List.append_assoc, List.singleton_append]

/-- What a text in normal form holds fits behind any text that leads there. -/
theorem fitsFrom_of_normalForm (h : NormalForm inClass cs)
    (hfront : reading front = ⟨false, inClass⟩) :
    FitsFrom front cs ∧ reading (front ++ cs) = {} := by
  induction h generalizing front with
  | nil => exact ⟨fitsFrom_nil front, by rw [List.append_nil]; exact hfront⟩
  | unit hunit _ ih =>
    obtain ⟨hfits, hend⟩ := ih (reading_escape hfront 'u').2
    rw [reading_append_cons, reading_append_cons]
    exact ⟨(fitsFrom_escape hfront).2 ⟨fun _ => hunit, fun _ => by decide, hfits⟩, hend⟩
  | escape hu hclass _ ih =>
    obtain ⟨hfits, hend⟩ := ih (reading_escape hfront _).2
    rw [reading_append_cons, reading_append_cons]
    exact ⟨(fitsFrom_escape hfront).2 ⟨fun hc => absurd hc hu, hclass, hfits⟩, hend⟩
  | opened _ ih =>
    obtain ⟨hfits, hend⟩ := ih (reading_open hfront)
    rw [reading_append_cons]
    exact ⟨(fitsFrom_open hfront).2 ⟨rfl, hfits⟩, hend⟩
  | negated _ ih =>
    have hopen := reading_open hfront
    obtain ⟨hfits, hend⟩ := ih (reading_plain hopen (c := '^') (by decide))
    rw [reading_append_cons, reading_append_cons]
    refine ⟨(fitsFrom_open hfront).2 ⟨rfl, (fitsFrom_plain hopen (by decide)).2 ⟨?_, hfits⟩⟩, hend⟩
    exact fun _ _ => ⟨_, rfl, hfront⟩
  | closed _ ih =>
    obtain ⟨hfits, hend⟩ := ih (reading_close hfront)
    rw [reading_append_cons]
    exact ⟨(fitsFrom_close hfront).2 ⟨rfl, hfits⟩, hend⟩
  | plain hmark hclass _ ih =>
    obtain ⟨hfits, hend⟩ := ih (reading_plain hfront hmark)
    rw [reading_append_cons]
    exact ⟨(fitsFrom_plain hfront hmark).2 ⟨fun hc hin => absurd hc (hclass hin), hfits⟩, hend⟩

/-! ## Texts with clean classes are in normal form -/

/-- What follows another character in a class does not follow the bracket that opens it. -/
theorem not_opened_snoc (h : reading front ≠ {}) (c : Char) : ¬Opened (front ++ [c]) := by
  rintro ⟨before, heq, hbefore⟩
  obtain ⟨rfl, -⟩ := List.append_inj' heq rfl
  exact h hbefore

/-- What follows an escape does not follow the bracket that opens a class. -/
theorem not_opened_escape (h : reading front = ⟨false, inClass⟩) (c : Char) :
    ¬Opened (front ++ ['\\'] ++ [c]) := by
  refine not_opened_snoc ?_ c
  rw [(reading_escape h c).1]
  simp

/-- A text whose characters fit is in normal form, if a class that has just been opened in front of it
does not begin with a second caret. -/
theorem normalForm_of_fitsFrom (hfront : reading front = ⟨false, inClass⟩)
    (hcaret : inClass = true → ∀ rest, cs = '^' :: rest → ¬Opened front)
    (hfits : FitsFrom front cs) (hend : reading (front ++ cs) = {}) : NormalForm inClass cs := by
  have hinside : (⟨false, true⟩ : Reading) ≠ {} := by simp
  -- the tokens of the text are those that its normal form is built from
  induction inClass, cs using normalFrom.induct generalizing front with
  | case1 inClass =>
    rw [List.append_nil, hfront] at hend
    obtain rfl : inClass = false := (Reading.mk.inj hend).2
    exact .nil
  | case2 inClass =>
    rw [(reading_escape hfront 'u').1] at hend
    exact absurd (Reading.mk.inj hend).1 (by decide)
  | case3 inClass rest hunit ih =>
    obtain ⟨-, -, hrest⟩ := (fitsFrom_escape hfront).1 hfits
    rw [reading_append_cons, reading_append_cons] at hend
    exact .unit hunit (ih (reading_escape hfront 'u').2
      (fun _ _ _ => not_opened_escape hfront 'u') hrest hend)
  | case4 inClass rest hunit ih =>
    obtain ⟨hdigits, -, -⟩ := (fitsFrom_escape hfront).1 hfits
    exact absurd (hdigits rfl) hunit
  | case5 inClass c rest hu ih =>
    obtain ⟨-, hclass, hrest⟩ := (fitsFrom_escape hfront).1 hfits
    rw [reading_append_cons, reading_append_cons] at hend
    exact .escape hu hclass (ih (reading_escape hfront c).2
      (fun _ _ _ => not_opened_escape hfront c) hrest hend)
  | case6 rest ih =>
    obtain ⟨hclass, -⟩ := (fitsFrom_open hfront).1 hfits
    simp at hclass
  | case7 inClass hclass rest ih =>
    obtain ⟨rfl, hcaret'⟩ := (fitsFrom_open hfront).1 hfits
    have hopen := reading_open hfront
    obtain ⟨-, hrest⟩ := (fitsFrom_plain hopen (by decide)).1 hcaret'
    rw [reading_append_cons, reading_append_cons] at hend
    exact .negated (ih (reading_plain hopen (by decide))
      (fun _ _ _ => not_opened_snoc (hopen ▸ hinside) '^') hrest hend)
  | case8 inClass hclass rest hnocaret ih =>
    obtain ⟨rfl, hrest⟩ := (fitsFrom_open hfront).1 hfits
    rw [reading_append_cons] at hend
    exact .opened (ih (reading_open hfront) (fun _ more heq => (hnocaret more heq).elim) hrest hend)
  | case9 rest ih =>
    obtain ⟨-, hrest⟩ := (fitsFrom_close hfront).1 hfits
    rw [reading_append_cons] at hend
    exact .closed (ih (reading_close hfront) (by simp) hrest hend)
  | case10 inClass rest hclass ih =>
    obtain ⟨hopen, -⟩ := (fitsFrom_close hfront).1 hfits
    exact absurd hopen hclass
  | case11 rest ih =>
    obtain ⟨hleads, -⟩ := (fitsFrom_plain hfront (by decide)).1 hfits
    exact absurd (hleads rfl rfl) (hcaret rfl rest rfl)
  | case12 inClass rest hclass ih =>
    obtain rfl : inClass = false := by simpa using hclass
    obtain ⟨-, hrest⟩ := (fitsFrom_plain hfront (by decide)).1 hfits
    rw [reading_append_cons] at hend
    exact .plain (by decide) (by simp) (ih (reading_plain hfront (by decide)) (by simp) hrest hend)
  | case13 inClass c rest hlast hunit hescape hopen hclose hnocaret ih =>
    have hmark : isMark c = false := by
      refine isMark_eq_false_iff.2 ⟨fun hc => ?_, hopen, hclose⟩
      cases rest with
      | nil => exact hlast hc rfl
      | cons c' rest => exact hescape c' rest hc rfl
    obtain ⟨-, hrest⟩ := (fitsFrom_plain hfront hmark).1 hfits
    rw [reading_append_cons] at hend
    refine .plain hmark (fun _ => hnocaret) (ih (reading_plain hfront hmark) ?_ hrest hend)
    rintro rfl _ _
    exact not_opened_snoc (hfront ▸ hinside) c

/-! ## Clean classes -/

/-- A text has clean classes iff it is in normal form. -/
theorem cleanClasses_iff : CleanClasses cs ↔ NormalForm false cs := by
  have hstart : reading [] = ⟨false, false⟩ := rfl
  constructor
  · intro h
    exact normalForm_of_fitsFrom hstart (by simp) h.fits h.finished
  · intro h
    obtain ⟨hfits, hend⟩ := fitsFrom_of_normalForm h hstart
    exact ⟨hfits, hend⟩

/-- The normal form of the text of a block has clean classes. The texts of blocks that are their own
normal forms are those that have clean classes. -/
theorem normalize_clean {inner rest : List Char} (h : scanBlock cs = some (inner, rest)) :
    CleanClasses (normalize inner) ∧ (normalize inner = inner ↔ CleanClasses inner) := by
  have hclean : CleanClasses (normalize inner) :=
    cleanClasses_iff.2 (settled_of_scanBlock h).normalForm
  refine ⟨hclean, fun heq => heq ▸ hclean, fun hinner => ?_⟩
  exact (cleanClasses_iff.1 hinner).normalFrom_eq

/-- The class holds an escaped bracket, a caret and an escaped newline, and behind it stand a bracket
and an escape without its digits. -/
theorem normalize_clean_class :
    scanBlock "\x7b[^\\]^\\n][^]]\\u12g\x7d".toList = some ("[^\\]^\\n][^]]\\u12g".toList, []) ∧
    CleanClasses "[^\\u005D\\u005E\\u000A][^]\\]\\\\u12g".toList ∧
    ¬CleanClasses "[^\\]^\\n][^]]\\u12g".toList := by
  have hscan : scanBlock "\x7b[^\\]^\\n][^]]\\u12g\x7d".toList =
      some ("[^\\]^\\n][^]]\\u12g".toList, []) := by decide
  have hnormal : normalize "[^\\]^\\n][^]]\\u12g".toList =
      "[^\\u005D\\u005E\\u000A][^]\\]\\\\u12g".toList := by decide +kernel
  obtain ⟨hclean, hfixed⟩ := normalize_clean hscan
  rw [hnormal] at hclean hfixed
  exact ⟨hscan, hclean, fun hinner => absurd (hfixed.2 hinner) (by decide)⟩

end PatternGrammar.Literal
