import Mathlib.Data.List.DropRight
import Mathlib.Tactic.IntervalCases
import PatternGrammar.Json.Reader
import PatternGrammar.Json.Text
import PatternGrammar.Proofs.Format.Comparison

/-!
# Reading JSON that was written

Reading what a value is written as over several lines gives the value back, where no number in the
value is a decimal: the text of a decimal is written as it is, whatever it is. A reader is followed
through the text piece by piece. An escaped character is read as that character
(`Json.readString?_escapeChar`), the digits of an integer end where no character of a number stands
(`Json.readValue?_int`), and blanks in front of a value make no difference
(`Json.readValue?_spaces`). A reader that may take more steps than the text has characters reads all
of it.

Main definitions: `Json.Plain`, `Json.Readable`.

Main results:

* `Json.Plain.readable`: a value is read back from the front of a text.
* `Json.read?_pretty`: a value is read back from its text.
-/

namespace PatternGrammar.Json

open PatternGrammar.Text

/-! ## Strings -/

theorem hexValue?_hexDigit {n : ℕ} (h : n < 16) : hexValue? (hexDigit n) = some n := by
  interval_cases n <;> rfl

/-- The escape of a character below the space. -/
theorem readCodePoint?_control {c : Char} (hc : c.toNat < 32) (cs : List Char) :
    readCodePoint? ('0' :: '0' :: hexDigit (c.toNat / 16) :: hexDigit (c.toNat % 16) :: cs)
      = some (c, cs) := by
  have hhigh := hexValue?_hexDigit (n := c.toNat / 16) (by omega)
  have hlow := hexValue?_hexDigit (n := c.toNat % 16) (by omega)
  have hzero : hexValue? '0' = some 0 := rfl
  have hvalue : ((0 * 16 + 0) * 16 + c.toNat / 16) * 16 + c.toNat % 16 = c.toNat := by omega
  have hunit : readUnit? ('0' :: '0' :: hexDigit (c.toNat / 16) :: hexDigit (c.toNat % 16) :: cs)
      = some (c.toNat, cs) := by
    simp only [readUnit?, hzero, hhigh, hlow, Option.bind_eq_bind, Option.bind_some, hvalue,
      Option.pure_def]
  have hpair : (0xD800 ≤ c.toNat && c.toNat < 0xDC00) = false := by
    simp only [Bool.and_eq_false_iff, decide_eq_false_iff_not]
    omega
  have hsecond : (0xDC00 ≤ c.toNat && c.toNat < 0xE000) = false := by
    simp only [Bool.and_eq_false_iff, decide_eq_false_iff_not]
    omega
  simp only [readCodePoint?, hunit, Option.bind_eq_bind, Option.bind_some, hpair, hsecond,
    Bool.false_eq_true, if_false, Char.ofNat_toNat, Option.pure_def]

/-- What is written for a character is read as the character, in one step. -/
theorem readString?_escapeChar (n : ℕ) (read : List Char) (c : Char) (cs : List Char) :
    readString? (n + 1) read (escapeChar c ++ cs) = readString? n (c :: read) cs := by
  rw [escapeChar]
  split_ifs with hquote hslash hback hfeed hline hreturn htab hcontrol
  any_goals (subst c; rfl)
  · simp [readString?, readCodePoint?_control hcontrol]
  · rw [List.singleton_append, readString?]
    · simp [hslash, hcontrol]
    · rintro rfl
      exact hquote rfl
    · rintro d ds rfl
      exact absurd rfl hslash

theorem length_le_length_flatMap_escapeChar (cs : List Char) :
    cs.length ≤ (cs.flatMap escapeChar).length := by
  induction cs with
  | nil => exact Nat.le_refl _
  | cons c cs ih =>
    have hpos : 0 < (escapeChar c).length := by
      rw [escapeChar]
      split_ifs <;> exact Nat.succ_pos _
    rw [List.flatMap_cons, List.length_append, List.length_cons]
    omega

/-- The characters of a string are read up to the closing quote. -/
theorem readString?_flatMap_escapeChar {n : ℕ} {cs : List Char} (h : cs.length ≤ n)
    (read rest : List Char) :
    readString? n read (cs.flatMap escapeChar ++ '"' :: rest)
      = some (String.ofList (read.reverse ++ cs), rest) := by
  induction cs generalizing n read with
  | nil =>
    rw [List.append_nil]
    cases n <;> rfl
  | cons c cs ih =>
    obtain ⟨n, rfl⟩ := Nat.exists_eq_add_one_of_ne_zero (Nat.ne_zero_of_lt h)
    rw [List.flatMap_cons, List.append_assoc, readString?_escapeChar,
      ih (Nat.le_of_succ_le_succ h), List.reverse_cons, List.append_assoc, List.singleton_append]

theorem toList_quoted (s : String) :
    (quoted s).toList = '"' :: (s.toList.flatMap escapeChar ++ ['"']) := by
  simp [quoted]

/-- A string in quotes is read after its opening quote. -/
theorem readString?_quoted (s : String) (rest : List Char) :
    readString? (s.toList.flatMap escapeChar ++ '"' :: rest).length []
        (s.toList.flatMap escapeChar ++ '"' :: rest) = some (s, rest) := by
  have hlength := length_le_length_flatMap_escapeChar s.toList
  rw [readString?_flatMap_escapeChar (by rw [List.length_append]; omega), List.reverse_nil,
    List.nil_append, String.ofList_toList]

/-! ## Blanks -/

theorem toList_newline (level : ℕ) :
    (newline level).toList = '\n' :: List.replicate (2 * level) ' ' :=
  String.toList_ofList

theorem isSpace_of_mem_newline {level : ℕ} {c : Char} (hc : c ∈ (newline level).toList) :
    isSpace c := by
  rw [toList_newline] at hc
  rcases List.mem_cons.1 hc with rfl | hc
  · rfl
  · rw [List.eq_of_mem_replicate hc]
    rfl

theorem dropWhile_newline (level : ℕ) (cs : List Char) :
    ((newline level).toList ++ cs).dropWhile isSpace = cs.dropWhile isSpace :=
  List.dropWhile_append_of_pos fun _ => isSpace_of_mem_newline

theorem readValue?_dropWhile (n : ℕ) (cs : List Char) :
    readValue? n (cs.dropWhile isSpace) = readValue? n cs := by
  cases n with
  | zero => rw [readValue?, readValue?]
  | succ n => rw [readValue?, readValue?, List.dropWhile_idempotent]

theorem readItems?_dropWhile (n : ℕ) (cs : List Char) :
    readItems? n (cs.dropWhile isSpace) = readItems? n cs := by
  cases n with
  | zero => rw [readItems?, readItems?]
  | succ n => rw [readItems?, readItems?, readValue?_dropWhile]

theorem readFields?_dropWhile (n : ℕ) (cs : List Char) :
    readFields? n (cs.dropWhile isSpace) = readFields? n cs := by
  cases n with
  | zero => rw [readFields?, readFields?]
  | succ n => rw [readFields?, readFields?, List.dropWhile_idempotent]

/-- Blanks in front of a value make no difference. -/
theorem readValue?_spaces {front : List Char} (h : ∀ c ∈ front, isSpace c) (n : ℕ)
    (cs : List Char) : readValue? n (front ++ cs) = readValue? n cs := by
  rw [← readValue?_dropWhile, List.dropWhile_append_of_pos h, readValue?_dropWhile]

theorem readValue?_newline (n level : ℕ) (cs : List Char) :
    readValue? n ((newline level).toList ++ cs) = readValue? n cs :=
  readValue?_spaces (fun _ => isSpace_of_mem_newline) n cs

theorem readValue?_blank (n : ℕ) (cs : List Char) : readValue? n (' ' :: cs) = readValue? n cs :=
  readValue?_spaces (List.forall_mem_singleton.2 rfl) n cs

/-! ## Integers -/

theorem isNumberChar_of_isDigit {c : Char} (hc : c.isDigit) : isNumberChar c := by
  simp [isNumberChar, hc]

theorem digitsValue_toString (n : ℕ) : digitsValue (toString n).toList = n := by
  rw [toList_toString]
  exact Nat.ofDigitChars_ten_toDigits

theorem toString_ne_nil (n : ℕ) : (toString n).toList ≠ [] := by
  rw [toList_toString]
  exact Nat.toDigits_ne_nil

/-- The digits of a natural number are an integer, behind a sign the opposite one. -/
theorem numberOf_intText (i : ℤ) : numberOf (intText i).toList = int i := by
  have hdigits (n : ℕ) : (toString n).toList.all Char.isDigit :=
    List.all_eq_true.2 isDigit_of_mem_toString
  cases i with
  | ofNat n =>
    rw [intText, numberOf, if_pos (hdigits n), digitsValue_toString]
    · rfl
    · -- no digit is a sign
      intro ds hds
      have := isDigit_of_mem_toString (n := n) '-' (hds ▸ List.mem_cons_self)
      exact absurd this (by decide)
  | negSucc n =>
    have hne : (digitsValue (toString (n + 1)).toList != 0) = true := by
      rw [digitsValue_toString]
      rfl
    have htext : (intText (.negSucc n)).toList = '-' :: (toString (n + 1)).toList := by
      rw [intText, String.toList_append]
      rfl
    rw [htext, numberOf, hdigits, hne, Bool.and_true, if_pos rfl, digitsValue_toString]
    rfl

theorem isNumberChar_of_mem_intText (i : ℤ) : ∀ c ∈ (intText i).toList, isNumberChar c := by
  intro c hc
  cases i with
  | ofNat n => exact isNumberChar_of_isDigit (isDigit_of_mem_toString c hc)
  | negSucc n =>
    rw [intText, String.toList_append] at hc
    rcases List.mem_append.1 hc with hc | hc
    · rw [List.mem_singleton.1 hc]
      rfl
    · exact isNumberChar_of_isDigit (isDigit_of_mem_toString c hc)

theorem intText_ne_nil (i : ℤ) : (intText i).toList ≠ [] := by
  cases i with
  | ofNat n => exact toString_ne_nil n
  | negSucc n =>
    rw [intText, String.toList_append]
    exact List.cons_ne_nil _ _

/-- What begins like a number is read as one, as far as its characters go. -/
theorem readValue?_number (n : ℕ) {c : Char} (hc : isNumberChar c) (cs : List Char) :
    readValue? (n + 1) (c :: cs)
      = some (numberOf ((c :: cs).takeWhile isNumberChar), (c :: cs).dropWhile isNumberChar) := by
  have hspace : isSpace c = false := by
    by_contra h
    simp only [Bool.not_eq_false, isSpace, Bool.or_eq_true, beq_iff_eq] at h
    rcases h with ((rfl | rfl) | rfl) | rfl <;> exact absurd hc (by decide)
  rw [readValue?, List.dropWhile_cons_of_neg (by simp [hspace])]
  split
  case h_7 hcons =>
    cases hcons
    rw [if_pos hc]
  -- no number begins like a value of another kind
  all_goals
    rename_i hcons
    cases hcons
    try exact absurd hc (by decide)

/-- An integer is read, where no character of a number stands behind it. -/
theorem readValue?_int {n : ℕ} (h : 0 < n) (i : ℤ) {rest : List Char}
    (hrest : ∀ c ∈ rest.head?, isNumberChar c = false) :
    readValue? n ((intText i).toList ++ rest) = some (int i, rest) := by
  obtain ⟨n, rfl⟩ := Nat.exists_eq_add_one_of_ne_zero (Nat.ne_of_gt h)
  have hchars := isNumberChar_of_mem_intText i
  obtain ⟨c, cs, hcs⟩ := List.exists_cons_of_ne_nil (intText_ne_nil i)
  have hc : isNumberChar c := hchars c (hcs ▸ List.mem_cons_self)
  rw [hcs, List.cons_append, readValue?_number n hc, ← List.cons_append, ← hcs,
    takeWhile_append_stop hchars hrest, dropWhile_append_stop hchars hrest, numberOf_intText]

/-! ## Lists and objects -/

theorem readItems?_closing (n : ℕ) (cs : List Char) : readItems? n (']' :: cs) = none := by
  cases n with
  | zero => rw [readItems?]
  | succ n => cases n <;> rfl

theorem readFields?_closing (n : ℕ) (cs : List Char) : readFields? n ('\x7d' :: cs) = none := by
  cases n <;> rfl

/-- A list is read, when its items are. -/
theorem readValue?_arr {n : ℕ} {js : List Json} {cs rest : List Char}
    (h : readItems? n cs = some (js, rest)) :
    readValue? (n + 1) ('[' :: cs) = some (arr js, rest) := by
  have hspace : ('[' :: cs).dropWhile isSpace = '[' :: cs := rfl
  rw [← readItems?_dropWhile] at h
  simp only [readValue?, hspace]
  split
  next hclosing =>
    rw [hclosing, readItems?_closing] at h
    cases h
  next => rw [h, Option.map_some]

/-- An object is read, when its fields are. -/
theorem readValue?_obj {n : ℕ} {fs : List (String × Json)} {cs rest : List Char}
    (h : readFields? n cs = some (fs, rest)) :
    readValue? (n + 1) ('\x7b' :: cs) = some (obj fs, rest) := by
  have hspace : ('\x7b' :: cs).dropWhile isSpace = '\x7b' :: cs := rfl
  rw [← readFields?_dropWhile] at h
  simp only [readValue?, hspace]
  split
  next hclosing =>
    rw [hclosing, readFields?_closing] at h
    cases h
  next => rw [h, Option.map_some]

/-- Written at any level in front of a text, the value is read and the text is left, unless the text
begins like the rest of a number. -/
def Readable (j : Json) : Prop :=
  ∀ (n level : ℕ) (rest : List Char), (prettyAt level j).toList.length < n →
    (∀ c ∈ rest.head?, isNumberChar c = false) →
      readValue? n ((prettyAt level j).toList ++ rest) = some (j, rest)

/-- What follows an item or a field is no character of a number. -/
theorem isNumberChar_head?_newline (level : ℕ) (cs : List Char) :
    ∀ c ∈ ((newline level).toList ++ cs).head?, isNumberChar c = false := by
  rw [toList_newline]
  exact stop_cons rfl

theorem readItems?_last {n outer : ℕ} {j : Json} {cs rest : List Char}
    (h : readValue? n cs = some (j, (newline outer).toList ++ ']' :: rest)) :
    readItems? (n + 1) cs = some ([j], rest) := by
  rw [readItems?, h]
  simp only [Option.bind_eq_bind, Option.bind_some, dropWhile_newline]
  rfl

theorem readItems?_more {n : ℕ} {j : Json} {js : List Json} {cs cs' rest : List Char}
    (h : readValue? n cs = some (j, ',' :: cs')) (hs : readItems? n cs' = some (js, rest)) :
    readItems? (n + 1) cs = some (j :: js, rest) := by
  have hcomma : (',' :: cs').dropWhile isSpace = ',' :: cs' := rfl
  rw [readItems?, h]
  simp only [Option.bind_eq_bind, Option.bind_some, hcomma, hs]
  rfl

/-- The items of a list are read up to its closing bracket, when every item is. -/
theorem readItems?_prettyItems {level n : ℕ} {j : Json} {js : List Json}
    (h : ∀ i ∈ j :: js, i.Readable) (hn : (prettyItems level (j :: js)).toList.length < n)
    (outer : ℕ) (rest : List Char) :
    readItems? n ((prettyItems level (j :: js)).toList ++ ((newline outer).toList ++ ']' :: rest))
      = some (j :: js, rest) := by
  induction js generalizing j n with
  | nil =>
    obtain ⟨n, rfl⟩ := Nat.exists_eq_add_one_of_ne_zero (Nat.ne_zero_of_lt hn)
    have htext : (prettyItems level [j]).toList
        = (newline level).toList ++ (prettyAt level j).toList := by
      rw [prettyItems, String.toList_append]
    rw [htext, List.length_append, toList_newline, List.length_cons] at hn
    apply readItems?_last
    rw [htext, List.append_assoc, readValue?_newline]
    exact h j List.mem_cons_self n level _ (by omega) (isNumberChar_head?_newline _ _)
  | cons k js ih =>
    obtain ⟨n, rfl⟩ := Nat.exists_eq_add_one_of_ne_zero (Nat.ne_zero_of_lt hn)
    obtain ⟨hj, hks⟩ := List.forall_mem_cons.1 h
    have htext : (prettyItems level (j :: k :: js)).toList = (newline level).toList ++
        ((prettyAt level j).toList ++ ',' :: (prettyItems level (k :: js)).toList) := by
      simp [prettyItems]
    rw [htext, List.length_append, List.length_append, toList_newline, List.length_cons,
      List.length_cons] at hn
    refine readItems?_more ?_ (ih hks (by omega))
    rw [htext, List.append_assoc, List.append_assoc, readValue?_newline]
    exact hj n level _ (by omega) (stop_cons rfl)

theorem dropWhile_newline_field (level : ℕ) (k : String) (cs : List Char) :
    ((newline level).toList ++ ((quoted k).toList ++ ':' :: ' ' :: cs)).dropWhile isSpace
      = '"' :: (k.toList.flatMap escapeChar ++ '"' :: ':' :: ' ' :: cs) := by
  rw [dropWhile_newline, toList_quoted, List.cons_append, List.append_assoc, List.singleton_append]
  rfl

theorem readFields?_last {n outer : ℕ} {j : Json} {cs rest : List Char}
    (h : readValue? n cs = some (j, (newline outer).toList ++ '\x7d' :: rest)) (level : ℕ)
    (k : String) :
    readFields? (n + 1) ((newline level).toList ++ ((quoted k).toList ++ ':' :: ' ' :: cs))
      = some ([(k, j)], rest) := by
  have hcolon : (':' :: ' ' :: cs).dropWhile isSpace = ':' :: ' ' :: cs := rfl
  rw [readFields?, dropWhile_newline_field]
  simp only [readString?_quoted, Option.bind_eq_bind, Option.bind_some, hcolon, readValue?_blank, h,
    dropWhile_newline]
  rfl

theorem readFields?_more {n : ℕ} {j : Json} {fs : List (String × Json)} {cs cs' rest : List Char}
    (h : readValue? n cs = some (j, ',' :: cs')) (hs : readFields? n cs' = some (fs, rest))
    (level : ℕ) (k : String) :
    readFields? (n + 1) ((newline level).toList ++ ((quoted k).toList ++ ':' :: ' ' :: cs))
      = some ((k, j) :: fs, rest) := by
  have hcolon : (':' :: ' ' :: cs).dropWhile isSpace = ':' :: ' ' :: cs := rfl
  have hcomma : (',' :: cs').dropWhile isSpace = ',' :: cs' := rfl
  rw [readFields?, dropWhile_newline_field]
  simp only [readString?_quoted, Option.bind_eq_bind, Option.bind_some, hcolon, readValue?_blank, h,
    hcomma, hs]
  rfl

/-- The fields of an object are read up to its closing brace, when every value in them is. -/
theorem readFields?_prettyFields {level n : ℕ} {f : String × Json} {fs : List (String × Json)}
    (h : ∀ g ∈ f :: fs, g.2.Readable) (hn : (prettyFields level (f :: fs)).toList.length < n)
    (outer : ℕ) (rest : List Char) :
    readFields? n ((prettyFields level (f :: fs)).toList
      ++ ((newline outer).toList ++ '\x7d' :: rest)) = some (f :: fs, rest) := by
  induction fs generalizing f n with
  | nil =>
    obtain ⟨n, rfl⟩ := Nat.exists_eq_add_one_of_ne_zero (Nat.ne_zero_of_lt hn)
    obtain ⟨k, j⟩ := f
    have htext : (prettyFields level [(k, j)]).toList = (newline level).toList ++
        ((quoted k).toList ++ ':' :: ' ' :: (prettyAt level j).toList) := by
      simp [prettyFields]
    rw [htext, List.length_append, List.length_append, List.length_cons, List.length_cons] at hn
    rw [htext, List.append_assoc, List.append_assoc, List.cons_append, List.cons_append]
    have hj : j.Readable := h (k, j) List.mem_cons_self
    exact readFields?_last (hj n level _ (by omega) (isNumberChar_head?_newline outer _)) level k
  | cons g fs ih =>
    obtain ⟨n, rfl⟩ := Nat.exists_eq_add_one_of_ne_zero (Nat.ne_zero_of_lt hn)
    obtain ⟨k, j⟩ := f
    have hj : j.Readable := h (k, j) List.mem_cons_self
    have hfs : ∀ f ∈ g :: fs, f.2.Readable := fun f hf => h f (List.mem_cons_of_mem _ hf)
    have htext : (prettyFields level ((k, j) :: g :: fs)).toList = (newline level).toList ++
        ((quoted k).toList ++ ':' :: ' ' :: ((prettyAt level j).toList ++
          ',' :: (prettyFields level (g :: fs)).toList)) := by
      simp [prettyFields]
    rw [htext] at hn
    simp only [List.length_append, List.length_cons] at hn
    rw [htext, List.append_assoc, List.append_assoc, List.cons_append, List.cons_append,
      List.append_assoc]
    exact readFields?_more (hj n level _ (by omega) (stop_cons rfl)) (ih hfs (by omega)) level k

/-! ## Values -/

/-- A value without decimals. -/
inductive Plain : Json → Prop where
  | null : Plain null
  | bool (b : Bool) : Plain (bool b)
  | int (i : ℤ) : Plain (int i)
  | str (s : String) : Plain (str s)
  | arr {js : List Json} (h : ∀ j ∈ js, Plain j) : Plain (arr js)
  | obj {fs : List (String × Json)} (h : ∀ f ∈ fs, Plain f.2) : Plain (obj fs)

theorem readable_null : null.Readable := by
  intro n level rest hn _
  obtain ⟨n, rfl⟩ := Nat.exists_eq_add_one_of_ne_zero (Nat.ne_zero_of_lt hn)
  rw [prettyAt]
  rfl

theorem readable_bool (b : Bool) : (bool b).Readable := by
  intro n level rest hn _
  obtain ⟨n, rfl⟩ := Nat.exists_eq_add_one_of_ne_zero (Nat.ne_zero_of_lt hn)
  rw [prettyAt]
  cases b <;> rfl

theorem readable_int (i : ℤ) : (int i).Readable := by
  intro n level rest hn hrest
  rw [prettyAt]
  exact readValue?_int (Nat.zero_lt_of_lt hn) i hrest

theorem readable_str (s : String) : (str s).Readable := by
  intro n level rest hn _
  obtain ⟨n, rfl⟩ := Nat.exists_eq_add_one_of_ne_zero (Nat.ne_zero_of_lt hn)
  have hspace (cs : List Char) : ('"' :: cs).dropWhile isSpace = '"' :: cs := rfl
  rw [prettyAt, toList_quoted, List.cons_append, List.append_assoc, List.singleton_append,
    readValue?]
  simp only [hspace, readString?_quoted, Option.map_some]

theorem readable_arr {js : List Json} (h : ∀ j ∈ js, j.Readable) : (arr js).Readable := by
  intro n level rest hn _
  obtain ⟨n, rfl⟩ := Nat.exists_eq_add_one_of_ne_zero (Nat.ne_zero_of_lt hn)
  cases js with
  | nil =>
    rw [prettyAt]
    rfl
  | cons j js =>
    have htext : (prettyAt level (arr (j :: js))).toList
        = '[' :: ((prettyItems (level + 1) (j :: js)).toList ++ ((newline level).toList ++ [']'])) := by
      simp [prettyAt]
    rw [htext, List.length_cons, List.length_append] at hn
    have hitems : (prettyItems (level + 1) (j :: js)).toList.length < n := by omega
    rw [htext, List.cons_append, List.append_assoc, List.append_assoc, List.singleton_append]
    exact readValue?_arr (readItems?_prettyItems h hitems level rest)

theorem readable_obj {fs : List (String × Json)} (h : ∀ f ∈ fs, f.2.Readable) :
    (obj fs).Readable := by
  intro n level rest hn _
  obtain ⟨n, rfl⟩ := Nat.exists_eq_add_one_of_ne_zero (Nat.ne_zero_of_lt hn)
  cases fs with
  | nil =>
    rw [prettyAt]
    rfl
  | cons f fs =>
    have htext : (prettyAt level (obj (f :: fs))).toList = '\x7b' ::
        ((prettyFields (level + 1) (f :: fs)).toList ++ ((newline level).toList ++ ['\x7d'])) := by
      simp [prettyAt]
    rw [htext, List.length_cons, List.length_append] at hn
    have hfields : (prettyFields (level + 1) (f :: fs)).toList.length < n := by omega
    rw [htext, List.cons_append, List.append_assoc, List.append_assoc, List.singleton_append]
    exact readValue?_obj (readFields?_prettyFields h hfields level rest)

/-- A value without decimals is read back, whatever stands behind it. -/
theorem Plain.readable {j : Json} (h : j.Plain) : j.Readable := by
  induction h with
  | null => exact readable_null
  | bool b => exact readable_bool b
  | int i => exact readable_int i
  | str s => exact readable_str s
  | arr _ ih => exact readable_arr ih
  | obj _ ih => exact readable_obj ih

/-- A value without decimals is read back from its text. -/
theorem read?_pretty {j : Json} (h : j.Plain) : read? j.pretty = some j := by
  have hread : readValue? (2 * j.pretty.toList.length + 1) j.pretty.toList = some (j, []) := by
    rw [← List.append_nil j.pretty.toList]
    exact h.readable _ 0 [] (by rw [← pretty, List.append_nil]; omega) (by simp)
  rw [read?]
  simp only [hread]
  rfl

/-- Values without decimals are known from their texts. -/
theorem pretty_inj {i j : Json} (hi : i.Plain) (hj : j.Plain) : i.pretty = j.pretty ↔ i = j := by
  refine ⟨fun h => ?_, congrArg pretty⟩
  rw [← Option.some_inj, ← read?_pretty hi, h, read?_pretty hj]

end PatternGrammar.Json
