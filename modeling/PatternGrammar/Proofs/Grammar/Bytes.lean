import PatternGrammar.Grammar.Reader
import PatternGrammar.Proofs.Text.Lines

/-!
# Grammars as bytes

In UTF-8 the bytes of a newline and of a carriage return stand for nothing else, so that the lines
of a text and those of its bytes are the same lines, and each of them can be decoded. A grammar that
is read as a text is the one that is read from its bytes.

Main results:

* `Lines.split_flatMap_of_encodes`: lines before and after they are encoded.
* `Grammar.parse_eq_parseBytes`: reading a text is reading its bytes.
-/

namespace PatternGrammar

namespace Lines

variable {α β : Type} [DecidableEq α] [DecidableEq β] {encode : α → List β} {newline ret : α}
  {newline' ret' : β}

/-- Newlines and carriage returns have codes of their own. -/
structure Encodes (encode : α → List β) (newline ret : α) (newline' ret' : β) : Prop where
  newline_eq : encode newline = [newline']
  newline_not_mem : ∀ a, a ≠ newline → newline' ∉ encode a
  ret_eq : encode ret = [ret']
  eq_ret : ∀ a, (encode a).getLast? = some ret' → a = ret
  ne_nil : ∀ a, encode a ≠ []

/-- A carriage return at the end of a line is one at the end of its code. -/
theorem Encodes.dropReturn_flatMap (h : Encodes encode newline ret newline' ret') (line : List α) :
    dropReturn ret' (line.flatMap encode) = (dropReturn ret line).flatMap encode := by
  rcases List.eq_nil_or_concat line with rfl | ⟨front, a, rfl⟩
  · simp [dropReturn]
  · rw [List.concat_eq_append, List.flatMap_append, List.flatMap_singleton]
    by_cases ha : a = ret
    · rw [ha, h.ret_eq]
      simp [dropReturn]
    · have hlast : ∀ b ∈ (front.flatMap encode ++ encode a).getLast?, b ≠ ret' := by
        rw [List.getLast?_append, List.getLast?_eq_some_getLast (h.ne_nil a)]
        rintro b ⟨⟩ hb
        exact ha (h.eq_ret a (by rw [List.getLast?_eq_some_getLast (h.ne_nil a), hb]))
      have hline : ∀ b ∈ (front ++ [a]).getLast?, b ≠ ret := by
        rw [List.getLast?_concat]
        rintro b ⟨⟩
        exact ha
      rw [dropReturn_eq hlast, dropReturn_eq hline, List.flatMap_append, List.flatMap_singleton]

theorem split_of_ne_nil {acc : List α} (h : acc ≠ []) :
    split newline ret acc [] = [acc.reverse] := by
  cases acc with
  | nil => exact absurd rfl h
  | cons => rfl

/-- The lines of an encoded row are its encoded lines. -/
theorem split_flatMap_of_encodes (h : Encodes encode newline ret newline' ret')
    (acc row : List α) :
    split newline' ret' (acc.reverse.flatMap encode).reverse (row.flatMap encode) =
      (split newline ret acc row).map (·.flatMap encode) := by
  induction row generalizing acc with
  | nil =>
    cases acc with
    | nil => rfl
    | cons a acc =>
      have hne : ((a :: acc).reverse.flatMap encode).reverse ≠ [] := by
        rw [Ne, List.reverse_eq_nil_iff, List.reverse_cons, List.flatMap_append,
          List.flatMap_singleton]
        exact fun heq => h.ne_nil a (List.append_eq_nil_iff.1 heq).2
      rw [List.flatMap_nil, split_of_ne_nil hne, List.reverse_reverse,
        split_of_ne_nil (List.cons_ne_nil a acc), List.map_singleton]
  | cons a row ih =>
    rw [List.flatMap_cons, split]
    split
    · rename_i ha
      rw [ha, h.newline_eq, List.singleton_append, split, if_pos rfl, List.reverse_reverse,
        h.dropReturn_flatMap, List.map_cons]
      exact congrArg _ (ih [])
    · rename_i ha
      rw [split_append_of_not_mem _ _ (h.newline_not_mem a ha), ← ih, List.reverse_cons,
        List.flatMap_append, List.flatMap_singleton, List.reverse_append]

end Lines

/-! ## UTF-8 -/

namespace Text

/-- A byte of a character is the character itself, or it is no ASCII. -/
theorem toNat_eq_or_le_of_mem_utf8EncodeChar {c : Char} {b : UInt8}
    (h : b ∈ String.utf8EncodeChar c) : b.toNat = c.toNat ∨ 128 ≤ b.toNat := by
  unfold String.utf8EncodeChar at h
  dsimp only at h
  split at h
  · rename_i hc
    obtain rfl := List.mem_singleton.1 h
    rw [UInt8.toNat_ofNat']
    exact .inl (Nat.mod_eq_of_lt (by omega))
  · refine .inr ?_
    split at h
    · simp only [List.mem_cons, List.not_mem_nil, or_false] at h
      rcases h with rfl | rfl <;> rw [UInt8.toNat_ofNat'] <;> omega
    · split at h
      · simp only [List.mem_cons, List.not_mem_nil, or_false] at h
        rcases h with rfl | rfl | rfl <;> rw [UInt8.toNat_ofNat'] <;> omega
      · simp only [List.mem_cons, List.not_mem_nil, or_false] at h
        rcases h with rfl | rfl | rfl | rfl <;> rw [UInt8.toNat_ofNat'] <;> omega

theorem eq_of_toNat_mem_utf8EncodeChar {c d : Char} {b : UInt8} (hb : b.toNat = d.toNat)
    (hd : d.toNat < 128) (h : b ∈ String.utf8EncodeChar c) : c = d := by
  rcases toNat_eq_or_le_of_mem_utf8EncodeChar h with hc | hc
  · exact Char.toNat_inj.1 (hc.symm.trans hb)
  · omega

theorem encodes_utf8 : Lines.Encodes String.utf8EncodeChar '\n' '\r' 10 13 where
  newline_eq := rfl
  newline_not_mem _ hne h := hne (eq_of_toNat_mem_utf8EncodeChar rfl (by decide) h)
  ret_eq := rfl
  eq_ret _ h := eq_of_toNat_mem_utf8EncodeChar rfl (by decide) (List.mem_of_getLast? h)
  ne_nil _ := String.utf8EncodeChar_ne_nil

end Text

namespace Grammar

theorem decode_utf8 (s : String) : decode s.toUTF8.data.toList = .ok s := by
  have hvalid : String.fromUTF8? (ByteArray.mk s.toUTF8.data.toList.toArray) = some s := by
    rw [Array.toArray_toList]
    exact dif_pos s.isValidUTF8
  rw [decode, hvalid]

theorem toList_toUTF8 (s : String) :
    s.toUTF8.data.toList = s.toList.flatMap String.utf8EncodeChar := by
  rw [String.toUTF8_eq_toByteArray, ← String.utf8Encode_toList, List.utf8Encode,
    List.data_toByteArray]

/-- Reading a text is reading its bytes. -/
theorem parse_eq_parseBytes (source : String) :
    parse source = parseBytes source.toUTF8.data.toList := by
  have hlines : Lines.split 10 13 [] source.toUTF8.data.toList =
      (Lines.split '\n' '\r' [] source.toList).map (·.flatMap String.utf8EncodeChar) := by
    rw [toList_toUTF8]
    exact Lines.split_flatMap_of_encodes Text.encodes_utf8 [] source.toList
  have hdecode : ∀ line : List Char,
      (decode (line.flatMap String.utf8EncodeChar)).map String.toList = .ok line := by
    intro line
    have hline := decode_utf8 (String.ofList line)
    rw [toList_toUTF8, String.toList_ofList] at hline
    rw [hline, Except.map, String.toList_ofList]
  rw [parse, parseBytes, hlines, List.map_map]
  simp only [Function.comp_def, hdecode]

end Grammar

end PatternGrammar
