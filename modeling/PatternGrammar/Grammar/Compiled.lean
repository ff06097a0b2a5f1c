import PatternGrammar.Grammar.Expansion
import PatternGrammar.Regex.Basic

/-!
# Compiled grammars

Compiling a grammar checks that it has rules with different names, expands each rule and compiles
its two patterns: the plain one, and the one with named groups, which has to match a whole text. A
compiled rule also knows which rules reach it through references.

Main definitions: `Grammar.compile`, `CompiledGrammar.referrers`.
-/

namespace PatternGrammar

/-- Why a grammar cannot be compiled. -/
inductive CompileError where
  /-- There is no rule to start with. -/
  | emptyGrammar
  /-- Two rules have one name. -/
  | duplicateRule (name : String)
  /-- The references of the rules cannot be followed. -/
  | reference (e : ReferenceError)
  /-- The pattern of a rule is no regular expression. -/
  | invalidPattern (rule pattern : String) (fault : Regex.Error)
deriving DecidableEq, Repr, Inhabited

/-- The message of an error. -/
def ReferenceError.message : ReferenceError → String
  | unknown rule reference => "Rule '" ++ rule ++ "' references unknown rule '" ++ reference ++ "'"
  | cycle path => "Cyclic rule reference: " ++ " -> ".intercalate path

/-- The message of an error. What is wrong with a pattern is left to its reader. -/
def CompileError.message : CompileError → String
  | emptyGrammar => "Grammar contains no rules"
  | duplicateRule name => "Rule '" ++ name ++ "' is defined more than once"
  | reference e => e.message
  | invalidPattern rule pattern _ =>
    "Rule '" ++ rule ++ "' compiles to an invalid pattern '" ++ pattern ++ "': "

/-- A rule with its patterns and the names of the rules that reach it through references. -/
structure CompiledRule where
  rule : Rule
  pattern : String
  matcher : Regex
  groupPattern : String
  groups : Regex
  ancestors : List String

/-- The rules of a grammar, compiled. There is at least one. -/
structure CompiledGrammar where
  first : CompiledRule
  others : List CompiledRule

namespace Grammar

/-- The first name that an earlier element of the row has too. -/
def firstDuplicate? (seen : List String) : List String → Option String
  | [] => none
  | name :: names =>
    if seen.contains name then some name else firstDuplicate? (name :: seen) names

/-- A pattern that matches whole texts only. -/
def anchored (pattern : String) : String :=
  "\\A(?:" ++ pattern ++ ")\\z"

/-- Compiles a pattern of a rule. -/
def compilePattern (r : Rule) (pattern : String) : Except CompileError Regex :=
  match Regex.compile pattern with
  | .ok re => .ok re
  | .error e => .error (.invalidPattern r.name pattern e)

/-- The names of the rules that refer to a name, in the order of their declaration. -/
def referring (g : Grammar) (name : String) : List String :=
  (g.rules.filter fun r => r.description.refersTo name).map Rule.name

/-- The names that are met on the way back from the pending ones: those of the rules that refer to
them, and so on. No name is met twice, and only names that are still unmet. -/
def traceBack (g : Grammar) (unmet pending : List String) : List String :=
  match pending with
  | [] => []
  | name :: pending =>
    if name ∈ unmet then
      name :: traceBack g (unmet.erase name) (g.referring name ++ pending)
    else traceBack g unmet pending
termination_by unmet.length * (g.rules.length + 1) + pending.length
decreasing_by
  -- a name that is met brings in no more names than there are rules
  · rename_i hunmet
    have hnew : (g.referring name).length ≤ g.rules.length := by
      rw [referring, List.length_map]
      exact List.length_filter_le _ _
    have hmul := Nat.succ_mul (unmet.length - 1) (g.rules.length + 1)
    rw [Nat.succ_eq_add_one, Nat.sub_add_cancel (List.length_pos_of_mem hunmet)] at hmul
    rw [List.length_erase_of_mem hunmet, List.length_append, List.length_cons, hmul]
    omega
  · simp

/-- The names of the rules that reach the named one through references. -/
def ancestors (g : Grammar) (name : String) : List String :=
  g.traceBack (g.rules.map Rule.name) (g.referring name)

/-- Compiles the rules of a row, one after another. The result comes with the memo that the
expansions so far have left, which outlives a failure. -/
def compileRules (g : Grammar) :
    List Rule → Memo → Except CompileError (List CompiledRule) × Memo
  | [], memo => (.ok [], memo)
  | r :: rs, memo =>
    match expandRule g r memo with
    | (.error e, memo) => (.error (.reference e), memo)
    | (.ok pattern, memo) =>
      match expandGroups g r memo with
      | (.error e, memo) => (.error (.reference e), memo)
      | (.ok groupPattern, memo) =>
        match compilePattern r pattern, compilePattern r (anchored groupPattern) with
        | .error e, _ => (.error e, memo)
        | _, .error e => (.error e, memo)
        | .ok matcher, .ok groups =>
          match compileRules g rs memo with
          | (.error e, memo) => (.error e, memo)
          | (.ok rules, memo) =>
            (.ok (⟨r, pattern, matcher, groupPattern, groups, []⟩ :: rules), memo)

/-- Compiles a grammar and keeps the memo of the expansions, in the order of their completion. -/
def compileWithMemo (g : Grammar) : Except CompileError CompiledGrammar × Memo :=
  if g.rules.isEmpty then (.error .emptyGrammar, [])
  else
    match firstDuplicate? [] (g.rules.map Rule.name) with
    | some name => (.error (.duplicateRule name), [])
    | none =>
      match compileRules g g.rules [] with
      | (.error e, memo) => (.error e, memo)
      | (.ok rules, memo) =>
        match rules.map fun r => { r with ancestors := g.ancestors r.rule.name } with
        | [] => (.error .emptyGrammar, memo)
        | first :: others => (.ok ⟨first, others⟩, memo)

/-- Compiles a grammar. -/
def compile (g : Grammar) : Except CompileError CompiledGrammar :=
  g.compileWithMemo.1

end Grammar

namespace CompiledGrammar

/-- The rules in the order of their declaration. -/
def rules (g : CompiledGrammar) : List CompiledRule :=
  g.first :: g.others

/-- The rule that texts are parsed with. -/
def startRule (g : CompiledGrammar) : Rule :=
  g.first.rule

/-- The rule with a name. -/
def find? (g : CompiledGrammar) (name : String) : Option CompiledRule :=
  g.rules.find? fun r => r.rule.name == name

/-- The names of the rules that reach the named one through references. -/
def ancestors (g : CompiledGrammar) (name : String) : List String :=
  (g.find? name).elim [] CompiledRule.ancestors

/-- The rules that reach the named one through references, in the order of their declaration. -/
def referrers (g : CompiledGrammar) (name : String) : List Rule :=
  let names := g.ancestors name
  (g.rules.map CompiledRule.rule).filter fun r => names.contains r.name

end CompiledGrammar

end PatternGrammar
