import PatternGrammar.Grammar.Reader
import PatternGrammar.Proofs.Description.RoundTrip
import PatternGrammar.Proofs.Text.Lines

/-!
# Round trips of grammars

The rules that are read from lines can be read again from the lines that they are written on, one
after another. So the canonical text of a grammar that was read gives the same grammar.

Main results:

* `Rule.readLine_text`: the line of a rule that can be read gives the rule.
* `Grammar.parse_text`: the canonical text of a grammar that was read gives the grammar.
-/

namespace PatternGrammar

open PatternGrammar.Text

/-! ## Rules -/

namespace Rule

/-- A rule that can be read. -/
structure Readable (r : Rule) : Prop where
  name : isName r.name.toList
  description : r.description.Readable

theorem name_of_splitDefinition? {cs name text : List Char}
    (h : splitDefinition? cs = some (name, text)) : isName name ∧ text ⊆ cs := by
  unfold splitDefinition? at h
  dsimp only at h
  split at h
  · rename_i rest hrest
    split at h
    · rename_i hname
      obtain ⟨rfl, rfl⟩ := Prod.mk.inj (Option.some.inj h)
      refine ⟨hname, fun c hc => ?_⟩
      have hmem : c ∈ ':' :: '=' :: rest :=
        List.mem_cons_of_mem _ (List.mem_cons_of_mem _ ((List.dropWhile_sublist _).subset hc))
      rw [← hrest] at hmem
      exact (List.dropWhile_sublist _).subset ((List.dropWhile_sublist _).subset hmem)
    · simp at h
  · simp at h

/-- What is read from a line can be read. -/
theorem readable_of_readLine {line : List Char} {r : Rule} (h : readLine line = .ok (some r))
    (hline : '\n' ∉ line) : r.Readable := by
  unfold readLine at h
  split at h
  · simp at h
  · simp at h
  · split at h
    · simp at h
    · rename_i name text hsplit
      split at h
      · rename_i d hd
        obtain rfl := Option.some.inj (Except.ok.inj h)
        obtain ⟨hname, hsub⟩ := name_of_splitDefinition? hsplit
        refine ⟨?_, Description.readable_of_readChars (trimmed_trim isBlank text) hd fun hmem =>
          hline ?_⟩
        · rw [String.toList_ofList]
          exact hname
        · exact mem_of_mem_trim (hsub (mem_of_mem_trim hmem))
      · simp at h

theorem toList_text (r : Rule) :
    r.text.toList = r.name.toList ++ [' ', ':', '=', ' '] ++ r.description.text.toList := by
  show ((r.name ++ " := ") ++ r.description.text).toList = _
  rw [String.toList_append, String.toList_append]
  rfl

theorem isLine_text {r : Rule} (h : r.Readable) : Description.IsLine r.text.toList := by
  rw [toList_text]
  exact (Description.isLine_of_isName h.name).append (Description.isLine_text h.description)
    (by decide)

theorem splitDefinition?_text {r : Rule} (h : r.Readable) :
    splitDefinition? r.text.toList = some (r.name.toList, r.description.text.toList) := by
  have hname := isNameChar_of_isName h.name
  have hstop : ∀ c ∈ ([' ', ':', '=', ' '] ++ r.description.text.toList).head?,
      isNameChar c = false := by
    rintro c ⟨⟩
    decide
  have hgap : ∀ c ∈ r.description.text.toList.head?, Description.isGap c = false := by
    intro c hc
    have hblank := (Description.isLine_text h.description).trimmed.head c hc
    rw [← Bool.not_eq_true] at hblank ⊢
    exact fun hgap => hblank (Description.isBlank_of_isGap hgap)
  have hsign : ([' ', ':', '=', ' '] ++ r.description.text.toList).dropWhile Description.isGap =
      ':' :: '=' :: ([' '] ++ r.description.text.toList) := rfl
  rw [toList_text, List.append_assoc, splitDefinition?, takeWhile_append_stop hname hstop,
    dropWhile_append_stop hname hstop, hsign]
  exact (if_pos h.name).trans (by rw [dropWhile_append_stop Description.isGap_of_mem_space hgap])

/-- The line of a rule gives the rule. -/
theorem readLine_text {r : Rule} (h : r.Readable) : readLine r.text.toList = .ok (some r) := by
  have hname := isNameChar_of_isName h.name
  obtain ⟨c, cs, hcs⟩ : ∃ c cs, r.text.toList = c :: cs ∧ isNameChar c := by
    obtain ⟨c, cs, hcs⟩ := List.exists_cons_of_ne_nil (ne_nil_of_isName h.name)
    refine ⟨c, cs ++ [' ', ':', '=', ' '] ++ r.description.text.toList, ?_, ?_⟩
    · rw [toList_text, hcs]
      rfl
    · exact hname c (by rw [hcs]; exact List.mem_cons_self)
  have hcomment : c ≠ '#' := ne_of_isNameChar hcs.2 (by decide)
  have hsplit := splitDefinition?_text h
  rw [readLine, trimChars_eq_self (isLine_text h).trimmed]
  rw [hcs.1] at hsplit ⊢
  split
  · rename_i heq
    simp at heq
  · rename_i heq
    exact absurd (List.cons.inj heq).1 hcomment
  · rw [hsplit]
    dsimp only
    rw [trimChars_eq_self (Description.isLine_text h.description).trimmed,
      Description.readChars_text h.description, String.ofList_toList]

end Rule

/-! ## Grammars -/

namespace Grammar

theorem readable_of_readLines {number : ℕ} {lines : List (List Char)} {rules : List Rule}
    (h : readLines number (lines.map .ok) = .ok rules) (hlines : ∀ line ∈ lines, '\n' ∉ line) :
    ∀ r ∈ rules, r.Readable := by
  induction lines generalizing number rules with
  | nil =>
    obtain rfl := Except.ok.inj h
    simp
  | cons line lines ih =>
    have hrest : ∀ line ∈ lines, '\n' ∉ line := fun l hl => hlines l (List.mem_cons_of_mem _ hl)
    rw [List.map_cons, readLines] at h
    cases hline : Rule.readLine line with
    | error fault =>
      rw [hline] at h
      simp at h
    | ok r? =>
      rw [hline] at h
      cases r? with
      | none => exact ih h hrest
      | some r =>
        cases hmore : readLines (number + 1) (lines.map .ok) with
        | error e =>
          simp only [hmore] at h
          simp [bind, Except.bind] at h
        | ok more =>
          simp only [hmore] at h
          obtain rfl := Except.ok.inj h
          intro r' hr'
          rcases List.mem_cons.1 hr' with rfl | hr'
          · exact Rule.readable_of_readLine hline (hlines line List.mem_cons_self)
          · exact ih hmore hrest r' hr'

/-- The rules of a grammar that is read from a text can be read. -/
theorem readable_of_parse {source : String} {g : Grammar} (h : parse source = .ok g) :
    ∀ r ∈ g.rules, r.Readable := by
  unfold parse at h
  cases hrules : readLines 1 ((Lines.split '\n' '\r' [] source.toList).map .ok) with
  | error e =>
    rw [hrules] at h
    simp [bind, Except.bind] at h
  | ok rules =>
    rw [hrules] at h
    obtain rfl := Except.ok.inj h
    exact readable_of_readLines hrules (Lines.not_mem_split (by simp))

theorem split_text {g : Grammar} (h : ∀ r ∈ g.rules, r.Readable) :
    Lines.split '\n' '\r' [] g.text.toList = g.rules.map fun r => r.text.toList := by
  have hlines : ∀ line ∈ g.rules.map fun r => r.text.toList, Lines.IsLine '\n' '\r' line := by
    refine List.forall_mem_map.2 fun r hr => ?_
    have hline := Rule.isLine_text (h r hr)
    refine ⟨hline.newline, ?_⟩
    rintro c hc rfl
    exact absurd (hline.trimmed.last _ hc) (by decide)
  have htext : g.text.toList = (g.rules.map fun r => r.text.toList).flatMap (· ++ ['\n']) := by
    rw [text, String.toList_join, List.flatMap_map, List.flatMap_map]
    congr 1
    funext r
    rw [String.toList_append]
    rfl
  rw [htext, Lines.split_flatMap hlines]

theorem readLines_text {number : ℕ} {rules : List Rule} (h : ∀ r ∈ rules, r.Readable) :
    readLines number ((rules.map fun r => r.text.toList).map .ok) = .ok rules := by
  induction rules generalizing number with
  | nil => rfl
  | cons r rules ih =>
    rw [List.map_cons, List.map_cons, readLines, Rule.readLine_text (h r List.mem_cons_self),
      ih fun r hr => h r (List.mem_cons_of_mem _ hr)]
    rfl

/-- The canonical text of rules that can be read is read as the rules. -/
theorem parse_text_of_readable {g : Grammar} (h : ∀ r ∈ g.rules, r.Readable) :
    parse g.text = .ok g := by
  rw [parse, split_text h, readLines_text h]
  rfl

/-- The canonical text of a grammar that was read gives the same grammar. -/
theorem parse_text {source : String} {g : Grammar} (h : parse source = .ok g) :
    parse g.text = .ok g :=
  parse_text_of_readable (readable_of_parse h)

/-- A grammar with all four shapes, with bounds that are degenerate and have zeros in front, with an
inner block, and with escapes in a class. -/
def shapes : String :=
  "a := \x7bx\x7b2\x7d[\\^\\]]\x7d\r\n# none\nr:=a\x7b05,002\x7d\nc := a|r\ns := a\x7by\x7d c"

/-- The canonical text of `shapes`. -/
def shapesText : String :=
  "a := \x7bx\x7b2\x7d[\\u005E\\u005D]\x7d\nr := a\x7b5,2\x7d\nc := a | r\ns := a \x7by\x7d c\n"

theorem parse_text_shapes : ∃ g, parse shapes = .ok g ∧ g.text = shapesText ∧
    parse g.text = .ok g := by
  have hread : (parse shapes).toOption.map text = some shapesText := by decide +kernel
  cases hg : parse shapes with
  | error e =>
    rw [hg] at hread
    simp [Except.toOption] at hread
  | ok g =>
    rw [hg] at hread
    exact ⟨g, rfl, Option.some.inj hread, parse_text hg⟩

end Grammar

end PatternGrammar
