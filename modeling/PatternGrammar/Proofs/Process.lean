import PatternGrammar.Process
import PatternGrammar.Proofs.Tree.Limit

/-!
# What options have an effect on

Processing goes through stages: the format is looked up, the grammar is read and compiled, the tree
is built and written. The options play a part in the first, where they name a format, in the third,
where they limit the depth, and in the last, where those for indented lines are used by the one
format for indented lines. So a failure to read or to compile is the same for all options that name a
format, and a limit on the depth either stops the work or has no effect on what is written.

Main results:

* `Registry.get?_register`: what is found after registering a format.
* `process_eq_ok_iff`, `process_eq_error_iff`: what comes of the stages.
* `process_independent_of_options`: the outcomes for two options.
-/

namespace PatternGrammar

/-! ## Formats -/

namespace Registry

theorem find?_insert (f : Format) (fs : List Format) (name : String) :
    (insert f fs).find? (fun g => g.name == name) =
      if f.name = name then some f else fs.find? fun g => g.name == name := by
  by_cases hname : f.name = name
  · rw [if_pos hname]
    induction fs with
    | nil => simp [insert, hname]
    | cons g gs ih =>
      rw [insert]
      split_ifs with hsame hlt
      · rw [List.find?_cons_of_pos (by simpa using hname)]
      · rw [List.find?_cons_of_pos (by simpa using hname)]
      · have hother : g.name ≠ name := fun h => hsame (hname.trans h.symm)
        rw [List.find?_cons_of_neg (by simpa using hother), ih]
  · rw [if_neg hname]
    induction fs with
    | nil => simp [insert, hname]
    | cons g gs ih =>
      rw [insert]
      split_ifs with hsame hlt
      · have hother : g.name ≠ name := fun h => hname (hsame.trans h)
        rw [List.find?_cons_of_neg (by simpa using hname),
          List.find?_cons_of_neg (by simpa using hother)]
      · rw [List.find?_cons_of_neg (by simpa using hname)]
      · rw [List.find?_cons, List.find?_cons, ih]

/-- A format that is registered is found by its name, and the others are found as before. -/
theorem get?_register (r : Registry) (f : Format) (name : String) :
    (r.register f).get? name = if f.name = name then some f else r.get? name :=
  find?_insert f r.formats name

end Registry

namespace Options

/-- Options only decide what the format for indented lines is. -/
theorem get?_registry (o : Options) (name : String) :
    o.registry.get? name =
      if "treeviz" = name then some (.treeviz o.treeviz) else Registry.standard.get? name :=
  Registry.standard.get?_register (.treeviz o.treeviz) name

/-- The same names have a format whatever the options are. -/
theorem has_registry (o : Options) (name : String) :
    o.registry.has name = Registry.standard.has name := by
  rw [Registry.has, get?_registry]
  split_ifs with h
  · have hstandard : Registry.standard.has "treeviz" = true := by decide
    rw [← h, hstandard]
    rfl
  · rfl

end Options

/-! ## Stages -/

/-- The grammar is at fault: it cannot be read, or it cannot be compiled. -/
inductive Failure.OfGrammar : Failure → Prop where
  | read (e : ReadError) : OfGrammar (.read e)
  | compile (e : CompileError) : OfGrammar (.compile e)

theorem ofGrammar_of_compileSource {source : String} {e : Failure}
    (h : compileSource source = .error e) : e.OfGrammar := by
  unfold compileSource at h
  cases hread : Grammar.parse source with
  | error fault =>
    rw [hread] at h
    obtain rfl := Except.error.inj h
    exact .read fault
  | ok g =>
    rw [hread] at h
    change (g.compile).mapError .compile = .error e at h
    cases hcompile : g.compile with
    | error fault =>
      rw [hcompile] at h
      obtain rfl := Except.error.inj h
      exact .compile fault
    | ok c =>
      rw [hcompile] at h
      exact nomatch h

variable {source input : String} {o o' : Options}

/-- An unknown format is reported before anything else. -/
theorem process_of_not_has (h : ¬o.registry.has o.format) :
    process source input o = .error (.format ⟨o.format⟩) := by
  rw [process, if_neg h]

/-- The stages behind the look-up of the format. -/
theorem process_of_get? {f : Format} (h : o.registry.get? o.format = some f) :
    process source input o =
      match compileSource source with
      | .error e => .error e
      | .ok c =>
        match (Builder.mk c input o.maxDepth).build with
        | .error e => .error (.depth e)
        | .ok t => .ok (f.render t) := by
  have hrender : ∀ t, o.registry.render t o.format = .ok (f.render t) := by
    intro t
    rw [Registry.render, h]
  rw [process, if_pos (by rw [Registry.has, h]; rfl)]
  cases hcompile : compileSource source with
  | error e => rfl
  | ok c =>
    show (parseTree c input o >>= fun t =>
      (o.registry.render t o.format).mapError Failure.format) = _
    simp only [hrender]
    rw [parseTree]
    cases (Builder.mk c input o.maxDepth).build <;> rfl

/-- Output is the tree in the format that the options name. -/
theorem process_eq_ok_iff {output : String} :
    process source input o = .ok output ↔
      ∃ f c t, o.registry.get? o.format = some f ∧ compileSource source = .ok c ∧
        (Builder.mk c input o.maxDepth).build = .ok t ∧ f.render t = output := by
  cases hget : o.registry.get? o.format with
  | none =>
    rw [process_of_not_has (by rw [Registry.has, hget]; exact Bool.false_ne_true)]
    simp
  | some f =>
    rw [process_of_get? hget]
    cases hcompile : compileSource source with
    | error e => simp
    | ok c => cases hbuild : (Builder.mk c input o.maxDepth).build <;> simp [hbuild]

/-- With a format that is there, processing fails by what the grammar or the depth is at fault
for. -/
theorem process_eq_error_iff (h : o.registry.has o.format) {e : Failure} :
    process source input o = .error e ↔ compileSource source = .error e ∨
      ∃ c d, compileSource source = .ok c ∧
        (Builder.mk c input o.maxDepth).build = .error d ∧ e = .depth d := by
  obtain ⟨f, hget⟩ := Option.isSome_iff_exists.1 h
  rw [process_of_get? hget]
  cases hcompile : compileSource source with
  | error e => simp
  | ok c => cases hbuild : (Builder.mk c input o.maxDepth).build <;> simp [hbuild, eq_comm]

/-- Where the grammar is at fault, the options have no part in it. -/
theorem process_eq_error_iff_of_ofGrammar (h : o.registry.has o.format) {e : Failure}
    (he : e.OfGrammar) :
    process source input o = .error e ↔ compileSource source = .error e := by
  rw [process_eq_error_iff h]
  refine ⟨fun h => h.resolve_right ?_, .inl⟩
  rintro ⟨c, d, -, -, rfl⟩
  exact nomatch he

/-! ## Two options -/

/-- Limits that do not stop the work have no effect on the tree. -/
theorem Builder.build_unique {c : CompiledGrammar} {limit limit' : ℕ} {t t' : Tree}
    (h : (Builder.mk c input limit).build = .ok t)
    (h' : (Builder.mk c input limit').build = .ok t') : t = t' := by
  rcases Nat.le_total limit limit' with hle | hle
  · have := build_withLimit h hle
    exact Except.ok.inj (this.symm.trans h')
  · have := build_withLimit h' hle
    exact Except.ok.inj (h.symm.trans this)

/-- A format is the same for all options, apart from the one for indented lines. -/
theorem Options.format_eq (hformat : o.format = o'.format)
    (htreeviz : o.format = "treeviz" → o.treeviz = o'.treeviz) :
    o.registry.get? o.format = o'.registry.get? o'.format := by
  rw [get?_registry, get?_registry, ← hformat]
  split_ifs with h
  · rw [htreeviz h.symm]
  · rfl

/-- A format that is not registered is reported as such, whatever the grammar and the input are; which
formats are registered does not depend on the options. For options that name registered formats:
the grammar is at fault for the one iff it is for the other, in the same way; what else can fail is
that the work goes too deep, and a larger limit keeps it from that where a smaller one does. Two
outputs in one format are equal, if it is not the one for indented lines or the options for it are
equal. -/
theorem process_independent_of_options (source input : String) :
    (∀ o : Options, ¬o.registry.has o.format →
      process source input o = .error (.format ⟨o.format⟩)) ∧
    (∀ (o o' : Options) (name : String), o.registry.has name = o'.registry.has name) ∧
    ∀ o o' : Options, o.registry.has o.format → o'.registry.has o'.format →
      (∀ e : Failure, e.OfGrammar →
        (process source input o = .error e ↔ process source input o' = .error e)) ∧
      (∀ e, process source input o = .error e → e.OfGrammar ∨ ∃ d, e = .depth d) ∧
      (o.maxDepth ≤ o'.maxDepth → ∀ output, process source input o = .ok output →
        ∃ output', process source input o' = .ok output') ∧
      (o.format = o'.format → (o.format = "treeviz" → o.treeviz = o'.treeviz) →
        ∀ output output', process source input o = .ok output →
          process source input o' = .ok output' → output = output') := by
  refine ⟨fun o => process_of_not_has, fun o o' name => ?_, fun o o' ho ho' => ⟨?_, ?_, ?_, ?_⟩⟩
  · rw [o.has_registry, o'.has_registry]
  · intro e he
    rw [process_eq_error_iff_of_ofGrammar ho he, process_eq_error_iff_of_ofGrammar ho' he]
  · intro e h
    rcases (process_eq_error_iff ho).1 h with hcompile | ⟨c, d, -, -, rfl⟩
    · exact .inl (ofGrammar_of_compileSource hcompile)
    · exact .inr ⟨d, rfl⟩
  · intro hle output h
    obtain ⟨f, c, t, -, hc, ht, -⟩ := process_eq_ok_iff.1 h
    obtain ⟨f', hf'⟩ := Option.isSome_iff_exists.1 ho'
    exact ⟨f'.render t, process_eq_ok_iff.2 ⟨f', c, t, hf', hc, Builder.build_withLimit ht hle, rfl⟩⟩
  · intro hformat htreeviz output output' h h'
    obtain ⟨f, c, t, hf, hc, ht, rfl⟩ := process_eq_ok_iff.1 h
    obtain ⟨f', c', t', hf', hc', ht', rfl⟩ := process_eq_ok_iff.1 h'
    obtain rfl := Except.ok.inj (hc.symm.trans hc')
    rw [Options.format_eq hformat htreeviz] at hf
    rw [Option.some.inj (hf.symm.trans hf'), Builder.build_unique ht ht']

/-- Numbers of digits. -/
def digits : String := "digit := \x7b[0-9]\x7d\nnumber := digit+\n"

/-- Tags are the same for all depths and all options for indented lines, and what is no rule is
reported under all options. -/
theorem process_independent_of_options_digits :
    process digits "42" ⟨"none", 512, {}⟩ = .error (.format ⟨"none"⟩) ∧
      (∃ output, process digits "42" ⟨"tag", 1, ⟨5, false⟩⟩ = .ok output ∧
        process digits "42" ⟨"tag", 512, ⟨30, true⟩⟩ = .ok output) ∧
      ∃ e, process "number" "42" ⟨"json", 1, ⟨5, false⟩⟩ = .error (.read e) ∧
        process "number" "42" ⟨"treeviz", 0, ⟨30, true⟩⟩ = .error (.read e) := by
  have hrun : (compileSource digits).toOption.any fun c : CompiledGrammar =>
      decide ((∀ n < (2 : ℕ), (Builder.mk c "42" 1).Fits n) ∧
        ((Builder.mk c "42" 1).stateAfter 2).2.isEmpty) := by decide +kernel
  obtain ⟨c, hc, hrun⟩ := Grammar.exists_ok_of_any hrun
  obtain ⟨hfits, hend⟩ := of_decide_eq_true hrun
  have ht := Builder.build_eq_ok_iff.2 ⟨2, hfits, List.isEmpty_iff.1 hend, rfl⟩
  have htag : process digits "42" ⟨"tag", 1, ⟨5, false⟩⟩ = .ok _ :=
    process_eq_ok_iff.2 ⟨.tag, c, _, by decide, hc, ht, rfl⟩
  have hline : Grammar.parse "number" = .error (.line ⟨1, "number", .notADefinition⟩) := by rfl
  have hsyntax : process "number" "42" ⟨"json", 1, ⟨5, false⟩⟩ =
      .error (.read (.line ⟨1, "number", .notADefinition⟩)) :=
    (process_eq_error_iff (by decide)).2 (.inl (by rw [compileSource, hline]; rfl))
  obtain ⟨hunknown, -, htags⟩ := process_independent_of_options digits "42"
  obtain ⟨-, -, hpair⟩ := process_independent_of_options "number" "42"
  obtain ⟨-, -, hlimit, hsame⟩ :=
    htags ⟨"tag", 1, ⟨5, false⟩⟩ ⟨"tag", 512, ⟨30, true⟩⟩ (by decide) (by decide)
  obtain ⟨hgrammar, -⟩ :=
    hpair ⟨"json", 1, ⟨5, false⟩⟩ ⟨"treeviz", 0, ⟨30, true⟩⟩ (by decide) (by decide)
  obtain ⟨output, htag'⟩ := hlimit (by decide) _ htag
  refine ⟨hunknown _ (by decide), ⟨output, ?_, htag'⟩, _, hsyntax, (hgrammar _ (.read _)).1 hsyntax⟩
  rw [← hsame rfl (by decide) _ _ htag htag']
  exact htag

end PatternGrammar
