import PatternGrammar.Proofs.Literal.Scanning
import PatternGrammar.Proofs.Text.Slices

/-!
# The grammar of blocks

Between the braces of a block stands a row of items: a character with a backslash before it, a class
in brackets, a block in braces, or any other character but `\`, `[`, `{` and `}`. In a class, a
backslash takes the character after it along as well, and the first `]` apart from that ends the
class.

The scan is in the state of the opening brace again exactly after such rows. That it is after each of
them holds for any number of open braces. For the other direction, each state of the scan stands for
what is left to be read (`ScanState.Left`), and each character of the text keeps this.

Main results:

* `Literal.scanBlock_eq_some_iff_items`: what a scan finds, and what it leaves.
* `Literal.scanBlock_recognizes`: a scan finds a block exactly where one stands at the start of the
  text, and no text begins with two.
-/

namespace PatternGrammar.Literal

/-- What may stand between the brackets of a class. -/
inductive ClassBody : List Char → Prop where
  | nil : ClassBody []
  | escaped (c : Char) {cs : List Char} (hcs : ClassBody cs) : ClassBody ('\\' :: c :: cs)
  | plain {c : Char} {cs : List Char} (hc : c ∉ ['\\', ']']) (hcs : ClassBody cs) :
      ClassBody (c :: cs)

/-- What may stand between the braces of a block. -/
inductive Items : List Char → Prop where
  | nil : Items []
  | escaped (c : Char) {cs : List Char} (hcs : Items cs) : Items ('\\' :: c :: cs)
  | bracketed {body cs : List Char} (hbody : ClassBody body) (hcs : Items cs) :
      Items ('[' :: body ++ ']' :: cs)
  | block {inner cs : List Char} (hinner : Items inner) (hcs : Items cs) :
      Items ('{' :: inner ++ '}' :: cs)
  | plain {c : Char} {cs : List Char} (hc : c ∉ ['\\', '[', '{', '}']) (hcs : Items cs) :
      Items (c :: cs)

namespace ScanState

variable {depth : ℕ} {inClass : Bool} {c : Char} {cs rest : List Char}

/-! ## Items are scanned -/

theorem after?_append {st st' : ScanState} {front : List Char} (h : st.after? front = some st') :
    st.after? (front ++ rest) = st'.after? rest := by
  induction front generalizing st with
  | nil =>
    obtain rfl := Option.some.inj h
    rfl
  | cons c front ih =>
    obtain ⟨st₁, hnext, hafter⟩ := Option.bind_eq_some_iff.1 h
    rw [List.cons_append, after?, hnext]
    exact ih hafter

theorem after?_cons {st st' : ScanState} (h : st.next? c = some st') :
    st.after? (c :: cs) = st'.after? cs := by
  rw [after?, h]
  rfl

/-- A backslash and the character after it leave the state as it was. -/
theorem after?_escaped (c : Char) :
    after? ⟨false, inClass, depth⟩ ('\\' :: c :: cs) = after? ⟨false, inClass, depth⟩ cs := by
  have hslash : next? ⟨false, inClass, depth⟩ '\\' = some ⟨true, inClass, depth⟩ := rfl
  have hchar : next? ⟨true, inClass, depth⟩ c = some ⟨false, inClass, depth⟩ := rfl
  rw [after?_cons hslash, after?_cons hchar]

theorem next?_class (hc : c ∉ ['\\', ']']) :
    next? ⟨false, true, depth⟩ c = some ⟨false, true, depth⟩ := by
  simp only [List.mem_cons, List.not_mem_nil, or_false, not_or] at hc
  simp [next?, hc]

theorem next?_item (hc : c ∉ ['\\', '[', '{', '}']) :
    next? ⟨false, false, depth⟩ c = some ⟨false, false, depth⟩ := by
  simp only [List.mem_cons, List.not_mem_nil, or_false, not_or] at hc
  simp [next?, hc]

/-- A scan stays inside a class over what may stand in it. -/
theorem after?_classBody (h : ClassBody cs) :
    after? ⟨false, true, depth⟩ cs = some ⟨false, true, depth⟩ := by
  induction h with
  | nil => rfl
  | escaped c _ ih => rw [after?_escaped, ih]
  | plain hc _ ih => rw [after?_cons (next?_class hc), ih]

/-- A scan comes back to where it is after items, whatever the number of open braces. -/
theorem after?_items (h : Items cs) :
    after? ⟨false, false, depth⟩ cs = some ⟨false, false, depth⟩ := by
  induction h generalizing depth with
  | nil => rfl
  | escaped c _ ih => rw [after?_escaped, ih]
  | bracketed hbody _ ih =>
    have hopen : next? ⟨false, false, depth⟩ '[' = some ⟨false, true, depth⟩ := rfl
    have hclose : next? ⟨false, true, depth⟩ ']' = some ⟨false, false, depth⟩ := rfl
    rw [List.cons_append, after?_cons hopen, after?_append (after?_classBody hbody),
      after?_cons hclose, ih]
  | block _ _ ihinner ih =>
    have hopen : next? ⟨false, false, depth⟩ '{' = some ⟨false, false, depth + 1⟩ := rfl
    have hclose : next? ⟨false, false, depth + 1⟩ '}' = some ⟨false, false, depth⟩ := rfl
    rw [List.cons_append, after?_cons hopen, after?_append ihinner, after?_cons hclose, ih]
  | plain hc _ ih => rw [after?_cons (next?_item hc), ih]

/-! ## What a scan awaits -/

/-- Items with a number of closing braces between them. -/
def Closes : ℕ → List Char → Prop
  | 0, cs => Items cs
  | depth + 1, cs => ∃ inner rest, cs = inner ++ '}' :: rest ∧ Items inner ∧ Closes depth rest

/-- What is left from a state that is not after a backslash: in a class, first the rest of it. -/
def Awaits (depth : ℕ) (inClass : Bool) (cs : List Char) : Prop :=
  if inClass then ∃ body rest, cs = body ++ ']' :: rest ∧ ClassBody body ∧ Closes depth rest
  else Closes depth cs

/-- What is left from a state: after a backslash, first a character. -/
def Left (st : ScanState) (cs : List Char) : Prop :=
  if st.escaped then ∃ c rest, cs = c :: rest ∧ Awaits st.depth st.inClass rest
  else Awaits st.depth st.inClass cs

/-- What may stand before items may stand before items with closing braces between them. -/
theorem Closes.prepend (h : Closes depth cs) (front : List Char)
    (hfront : ∀ cs, Items cs → Items (front ++ cs)) : Closes depth (front ++ cs) := by
  cases depth with
  | zero => exact hfront cs h
  | succ depth =>
    obtain ⟨inner, rest, rfl, hinner, hrest⟩ := h
    refine ⟨front ++ inner, rest, ?_, hfront inner hinner, hrest⟩
    rw [List.append_assoc]

/-- Behind an opening brace, there is one more brace to close. -/
theorem Closes.block (h : Closes (depth + 1) cs) : Closes depth ('{' :: cs) := by
  obtain ⟨inner, rest, rfl, hinner, hrest⟩ := h
  have hblock : ∀ cs, Items cs → Items (('{' :: inner ++ ['}']) ++ cs) := by
    intro cs hcs
    rw [List.append_assoc]
    exact .block hinner hcs
  have hcloses := hrest.prepend _ hblock
  rwa [List.append_assoc] at hcloses

theorem Closes.close (h : Closes depth cs) : Closes (depth + 1) ('}' :: cs) :=
  ⟨[], cs, rfl, .nil, h⟩

/-- A class may stand before items with closing braces between them. -/
theorem Closes.openClass (h : Awaits depth true cs) : Closes depth ('[' :: cs) := by
  obtain ⟨body, rest, rfl, hbody, hrest⟩ := h
  have hclass : ∀ cs, Items cs → Items (('[' :: body ++ [']']) ++ cs) := by
    intro cs hcs
    rw [List.append_assoc]
    exact .bracketed hbody hcs
  have hcloses := hrest.prepend _ hclass
  rwa [List.append_assoc] at hcloses

theorem Awaits.escaped (h : Awaits depth inClass cs) (c : Char) :
    Awaits depth inClass ('\\' :: c :: cs) := by
  cases inClass with
  | false => exact Closes.prepend h ['\\', c] fun _ => .escaped c
  | true =>
    obtain ⟨body, rest, rfl, hbody, hrest⟩ := h
    exact ⟨'\\' :: c :: body, rest, rfl, hbody.escaped c, hrest⟩

theorem awaits_cons_class {st : ScanState} (hnext : next? ⟨false, true, depth⟩ c = some st)
    (h : st.Left cs) : Awaits depth true (c :: cs) := by
  by_cases hc : c ∈ ['\\', ']']
  · simp only [List.mem_cons, List.not_mem_nil, or_false] at hc
    rcases hc with rfl | rfl
    · obtain rfl := Option.some.inj hnext
      obtain ⟨c', rest, rfl, hrest⟩ := h
      exact Awaits.escaped hrest c'
    · obtain rfl := Option.some.inj hnext
      exact ⟨[], cs, rfl, .nil, h⟩
  · rw [next?_class hc] at hnext
    obtain rfl := Option.some.inj hnext
    obtain ⟨body, rest, rfl, hbody, hrest⟩ := h
    exact ⟨c :: body, rest, rfl, .plain hc hbody, hrest⟩

theorem closes_cons {st : ScanState} (hnext : next? ⟨false, false, depth⟩ c = some st)
    (h : st.Left cs) : Closes depth (c :: cs) := by
  by_cases hc : c ∈ ['\\', '[', '{', '}']
  · simp only [List.mem_cons, List.not_mem_nil, or_false] at hc
    rcases hc with rfl | rfl | rfl | rfl
    · obtain rfl := Option.some.inj hnext
      obtain ⟨c', rest, rfl, hrest⟩ := h
      exact Awaits.escaped hrest c'
    · obtain rfl := Option.some.inj hnext
      exact Closes.openClass h
    · obtain rfl := Option.some.inj hnext
      exact Closes.block h
    · cases depth with
      | zero =>
        -- this brace closes the block
        have hend : next? {} '}' = none := next?_eq_none_iff.2 ⟨rfl, rfl⟩
        rw [hend] at hnext
        simp at hnext
      | succ depth =>
        obtain rfl := Option.some.inj hnext
        exact Closes.close h
  · rw [next?_item hc] at hnext
    obtain rfl := Option.some.inj hnext
    exact Closes.prepend h [c] fun _ => .plain hc

/-- A step of the scan keeps what is left. -/
theorem left_cons {st st' : ScanState} (hnext : st.next? c = some st') (h : st'.Left cs) :
    st.Left (c :: cs) := by
  obtain ⟨escaped, inClass, depth⟩ := st
  cases escaped with
  | true =>
    obtain rfl := Option.some.inj hnext
    exact ⟨c, cs, rfl, h⟩
  | false =>
    cases inClass with
    | true => exact awaits_cons_class hnext h
    | false => exact closes_cons hnext h

theorem left_of_after? {st : ScanState} (h : st.after? cs = some {}) : st.Left cs := by
  induction cs generalizing st with
  | nil =>
    obtain rfl := Option.some.inj h
    exact Items.nil
  | cons c cs ih =>
    obtain ⟨st', hnext, hafter⟩ := Option.bind_eq_some_iff.1 h
    exact left_cons hnext (ih hafter)

end ScanState

/-- A scan finds a block at the start of a text iff what it finds between braces is a row of items. -/
theorem scanBlock_eq_some_iff_items {cs inner rest : List Char} :
    scanBlock cs = some (inner, rest) ↔ Items inner ∧ cs = '{' :: inner ++ '}' :: rest := by
  rw [scanBlock_eq_some_iff]
  constructor
  · rintro ⟨hafter, hcs⟩
    exact ⟨ScanState.left_of_after? hafter, hcs⟩
  · rintro ⟨hitems, hcs⟩
    exact ⟨ScanState.after?_items hitems, hcs⟩

/-! ## Places of blocks -/

open Text (slice? slice?_front_iff slice?_back_iff byteSize)

/-- A scan of the text finds a block with this row of characters between its braces, and what the
scan leaves begins at byte `stop`. -/
def Finds (text : String) (inner : List Char) (stop : ℕ) : Prop :=
  ∃ rest, scanBlock text.toList = some (inner, rest) ∧
    slice? text ⟨stop, byteSize text.toList⟩ = some (String.ofList rest)

/-- The text up to byte `stop` is a row of items between braces. -/
def BeginsWith (text : String) (inner : List Char) (stop : ℕ) : Prop :=
  Items inner ∧ slice? text ⟨0, stop⟩ = some (String.ofList ('{' :: inner ++ ['}']))

variable {text : String} {inner : List Char} {stop : ℕ}

theorem beginsWith_iff :
    BeginsWith text inner stop ↔ stop = byteSize ('{' :: inner ++ ['}']) ∧
      ∃ rest, scanBlock text.toList = some (inner, rest) := by
  simp only [BeginsWith, slice?_front_iff, scanBlock_eq_some_iff_items]
  constructor
  · rintro ⟨hitems, rest, htext, hstop⟩
    exact ⟨hstop, rest, hitems, by rw [htext, List.append_assoc]; rfl⟩
  · rintro ⟨hstop, rest, hitems, htext⟩
    exact ⟨hitems, rest, by rw [htext, List.append_assoc]; rfl, hstop⟩

/-- Behind the block that a scan finds begins what the scan leaves. -/
theorem finds_iff :
    Finds text inner stop ↔ stop = byteSize ('{' :: inner ++ ['}']) ∧
      ∃ rest, scanBlock text.toList = some (inner, rest) := by
  have hplace : ∀ rest, scanBlock text.toList = some (inner, rest) →
      (slice? text ⟨stop, byteSize text.toList⟩ = some (String.ofList rest) ↔
        stop = byteSize ('{' :: inner ++ ['}'])) := by
    intro rest hscan
    have htext : text.toList = ('{' :: inner ++ ['}']) ++ rest := by
      rw [(scanBlock_eq_some_iff_items.1 hscan).2, List.append_assoc]
      rfl
    rw [slice?_back_iff]
    constructor
    · rintro ⟨front, hfront, hstop⟩
      rw [hstop, List.append_cancel_right (hfront.symm.trans htext)]
    · exact fun hstop => ⟨_, htext, hstop⟩
  constructor
  · rintro ⟨rest, hscan, hrest⟩
    exact ⟨(hplace rest hscan).1 hrest, rest, hscan⟩
  · rintro ⟨hstop, rest, hscan⟩
    exact ⟨rest, hscan, (hplace rest hscan).2 hstop⟩

/-- A scan finds what stands between braces, and the byte behind them, exactly where the text up to
this byte is a row of items between braces; it finds nothing exactly where the text does not begin
like this; and no text begins like this in two ways. The byte falls between two characters, since
the text is cut there. -/
theorem scanBlock_recognizes (text : String) :
    (∀ inner stop, Finds text inner stop ↔ BeginsWith text inner stop) ∧
    (scanBlock text.toList = none ↔ ∀ inner stop, ¬BeginsWith text inner stop) ∧
    ∀ inner stop inner' stop', BeginsWith text inner stop → BeginsWith text inner' stop' →
      inner = inner' ∧ stop = stop' := by
  refine ⟨fun inner stop => by rw [finds_iff, beginsWith_iff], ?_, ?_⟩
  · rw [Option.eq_none_iff_forall_ne_some]
    constructor
    · intro hnone inner stop hbegins
      obtain ⟨-, rest, hscan⟩ := beginsWith_iff.1 hbegins
      exact hnone _ hscan
    · rintro hnone ⟨inner, rest⟩ hscan
      exact hnone inner _ (beginsWith_iff.2 ⟨rfl, rest, hscan⟩)
  · intro inner stop inner' stop' hbegins hbegins'
    obtain ⟨rfl, rest, hscan⟩ := beginsWith_iff.1 hbegins
    obtain ⟨rfl, rest', hscan'⟩ := beginsWith_iff.1 hbegins'
    obtain ⟨rfl, -⟩ := Prod.mk.inj (Option.some.inj (hscan.symm.trans hscan'))
    exact ⟨rfl, rfl⟩

/-- In a class, brackets and braces are characters. A bracket that closes no class is one, too, and so
is what a backslash takes along. -/
theorem scanBlock_recognizes_brackets :
    Finds "\x7b[[\x7d]]\\\x7dé\x7d tail" "[[\x7d]]\\\x7dé".toList 11 ∧
    (∀ inner stop, BeginsWith "\x7b[[\x7d]]\\\x7dé\x7d tail" inner stop →
      inner = "[[\x7d]]\\\x7dé".toList ∧ stop = 11) ∧
    ∀ inner stop, ¬BeginsWith "\x7b[\x7d tail" inner stop := by
  obtain ⟨hfinds, -, hunique⟩ := scanBlock_recognizes "\x7b[[\x7d]]\\\x7dé\x7d tail"
  obtain ⟨-, hnone, -⟩ := scanBlock_recognizes "\x7b[\x7d tail"
  have hfound : Finds "\x7b[[\x7d]]\\\x7dé\x7d tail" "[[\x7d]]\\\x7dé".toList 11 :=
    ⟨" tail".toList, by decide, by decide⟩
  exact ⟨hfound, fun inner stop hbegins => hunique _ _ _ _ hbegins ((hfinds _ _).1 hfound),
    hnone.1 (by decide)⟩

end PatternGrammar.Literal
