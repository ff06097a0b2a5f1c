import PatternGrammar.Format.Registry
import PatternGrammar.Proofs.Json.RoundTrip
import PatternGrammar.Proofs.Tree.Traversal

/-!
# Trees and rules as JSON

A rule is read back from its JSON form: the kind of a description or a part and every field is found
under its name, and a missing upper bound is written as a null, which no number is. Nothing in the
JSON form of a tree is a decimal, so the text of a tree gives its JSON form, and the JSON form gives
the rule, the span, the text and the children of every node.

Main results:

* `Rule.ofJson?_toJson`: a rule is read back.
* `Tree.toJson_injective`: a tree is known from its JSON form.
* `Format.render_json_iff`: a tree is known from its JSON text, and its rules are read back.
-/

namespace PatternGrammar

open PatternGrammar.Text (Span)

/-! ## Rules -/

theorem Json.mapM_map {α : Type} {write : α → Json} {read : Json → Option α}
    (h : ∀ a, read (write a) = some a) (as : List α) : (as.map write).mapM read = some as := by
  induction as with
  | nil => rfl
  | cons a as ih => simp [h, ih]

theorem Json.word32?_nat (n : UInt32) : (Json.nat n.toNat).word32? = some n := by
  have hn : n.toNat < UInt32.size := n.toNat_lt
  have hnat : Json.nat n.toNat = .int (.ofNat n.toNat) := rfl
  rw [hnat, Json.word32?, if_pos hn, UInt32.ofNat_toNat]

theorem Part.ofJson?_toJson (p : Part) : Part.ofJson? p.toJson = some p := by
  cases p <;> simp [toJson, ofJson?, Json.field?, kindInFields?, Json.str?, ofKind?]

namespace Description

/-- The bounds are read back: no number that is written is a null. -/
theorem repetitionOf?_toJson (rule : String) (min : UInt32) (max : Option UInt32) :
    repetitionOf? (.str rule) (.nat min.toNat) (max.elim .null fun n => .nat n.toNat)
      = some (repetition rule min max) := by
  have hmin := Json.word32?_nat min
  cases max with
  | none => simp [repetitionOf?, Json.str?, hmin]
  | some n =>
    have hmax := Json.word32?_nat n
    simp only [Json.nat, Option.elim_some] at hmin hmax ⊢
    simp [repetitionOf?, Json.str?, hmin, hmax]

theorem ofJson?_toJson (d : Description) : Description.ofJson? d.toJson = some d := by
  cases d with
  | repetition rule min max =>
    have hbounds := repetitionOf?_toJson rule min max
    simp [toJson, ofJson?, Json.field?, Json.str?, ofFields?, hbounds]
  | choice alternatives =>
    have hname (name : String) : (Json.str name).str? = some name := rfl
    have hnames := Json.mapM_map hname alternatives
    simp [toJson, ofJson?, Json.field?, Json.str?, ofFields?, choiceOf?, Json.arr?, hnames]
  | literal pattern =>
    simp [toJson, ofJson?, Json.field?, Json.str?, ofFields?, literalOf?]
  | composition parts =>
    have hparts := Json.mapM_map Part.ofJson?_toJson parts
    simp [toJson, ofJson?, Json.field?, Json.str?, ofFields?, compositionOf?, Json.arr?, hparts]

end Description

theorem Rule.ofJson?_toJson (r : Rule) : Rule.ofJson? r.toJson = some r := by
  simp [toJson, ofJson?, Json.field?, Json.str?, Description.ofJson?_toJson]

theorem Rule.toJson_injective : Function.Injective Rule.toJson := fun r s h => by
  rw [← Option.some_inj, ← Rule.ofJson?_toJson r, h, Rule.ofJson?_toJson]

/-! ## No decimals -/

theorem Json.plain_nat (n : ℕ) : (Json.nat n).Plain := .int n

theorem Json.plain_arr_map {α : Type} {write : α → Json} (h : ∀ a, (write a).Plain)
    (as : List α) : (Json.arr (as.map write)).Plain :=
  .arr (List.forall_mem_map.2 fun a _ => h a)

theorem Part.plain_toJson (p : Part) : p.toJson.Plain := by
  cases p <;> exact .obj (by simp [Json.Plain.str])

theorem Description.plain_toJson (d : Description) : d.toJson.Plain := by
  cases d with
  | repetition rule min max =>
    have hmax : (max.elim Json.null fun n => .nat n.toNat).Plain := by
      cases max with
      | none => exact .null
      | some n => exact Json.plain_nat _
    exact .obj (by simp [Json.Plain.str, Json.plain_nat, hmax])
  | choice alternatives =>
    have hnames := Json.plain_arr_map Json.Plain.str alternatives
    exact .obj (by simp [Json.Plain.str, hnames])
  | literal pattern => exact .obj (by simp [Json.Plain.str])
  | composition parts =>
    have hparts := Json.plain_arr_map Part.plain_toJson parts
    exact .obj (by simp [Json.Plain.str, hparts])

theorem Rule.plain_toJson (r : Rule) : r.toJson.Plain :=
  .obj (by simp [Json.Plain.str, r.description.plain_toJson])

/-! ## Trees -/

namespace Tree

mutual

theorem plain_toJson : ∀ t : Tree, t.toJson.Plain
  | node rule span text children => by
    have hchildren : (Json.arr (rowToJson children)).Plain := .arr (plain_rowToJson children)
    have hspan : span.toJson.Plain := .obj (by simp [Json.plain_nat])
    rw [toJson]
    exact .obj (by simp [rule.plain_toJson, hspan, hchildren, Json.Plain.str])

theorem plain_rowToJson : ∀ ts : List Tree, ∀ j ∈ rowToJson ts, j.Plain
  | [] => List.forall_mem_nil _
  | t :: ts => List.forall_mem_cons.2 ⟨plain_toJson t, plain_rowToJson ts⟩

end

theorem spanToJson_injective : Function.Injective Span.toJson := by
  rintro ⟨start, stop⟩ ⟨start', stop'⟩ h
  simpa [Span.toJson, Json.nat] using h

mutual

theorem toJson_injective : ∀ {t u : Tree}, t.toJson = u.toJson → t = u
  | node rule span text children, node rule' span' text' children', h => by
    simp only [toJson, Json.obj.injEq, List.cons.injEq, Prod.mk.injEq, true_and, and_true,
      Json.str.injEq, Json.arr.injEq] at h
    obtain ⟨hrule, hspan, htext, hchildren⟩ := h
    rw [Rule.toJson_injective hrule, spanToJson_injective hspan, htext,
      rowToJson_injective hchildren]

theorem rowToJson_injective : ∀ {ts us : List Tree}, rowToJson ts = rowToJson us → ts = us
  | [], [], _ => rfl
  | t :: ts, u :: us, h => by
    obtain ⟨ht, hts⟩ := List.cons.inj h
    rw [toJson_injective ht, rowToJson_injective hts]

end

end Tree

theorem Tree.field?_rule_toJson (t : Tree) : t.toJson.field? "rule" = some t.rule.toJson := by
  cases t
  rw [toJson]
  rfl

/-- Two trees that are written as the same JSON text are the same tree. The rule of a node is under
its name in the JSON form of the node, and it is read back from its JSON form, as a value and as a
text. -/
theorem Format.render_json_iff (t u : Tree) :
    (Format.json.render t = Format.json.render u ↔ t = u) ∧
    ∀ n ∈ t.nodes, n.toJson.field? "rule" = some n.rule.toJson ∧
      Rule.ofJson? n.rule.toJson = some n.rule ∧
      (Json.read? n.rule.toJson.pretty).bind Rule.ofJson? = some n.rule := by
  refine ⟨?_, fun n _ => ⟨n.field?_rule_toJson, n.rule.ofJson?_toJson, ?_⟩⟩
  · rw [Format.render, Format.render, Json.pretty_inj t.plain_toJson u.plain_toJson]
    exact ⟨fun h => Tree.toJson_injective h, congrArg Tree.toJson⟩
  · rw [Json.read?_pretty n.rule.plain_toJson, Option.bind_some, Rule.ofJson?_toJson]

/-- A name and a literal with the same value are written differently, and the rule is read back. -/
theorem Format.render_json_iff_part :
    let named : Rule := ⟨"word", .composition [.name "a"]⟩
    let literal : Rule := ⟨"word", .composition [.literal "a"]⟩
    Format.json.render (.node named ⟨0, 1⟩ "a" []) ≠
      Format.json.render (.node literal ⟨0, 1⟩ "a" []) ∧
    (Json.read? named.toJson.pretty).bind Rule.ofJson? = some named := by
  intro named literal
  obtain ⟨hiff, hnodes⟩ := render_json_iff (.node named ⟨0, 1⟩ "a" []) (.node literal ⟨0, 1⟩ "a" [])
  refine ⟨fun h => ?_, (hnodes _ (Tree.mem_nodes_iff.2 (.inl rfl))).2.2⟩
  have hrule : named = literal := congrArg Tree.rule (hiff.1 h)
  exact absurd hrule (by decide)

end PatternGrammar
