import PatternGrammar.Grammar.Compiled

/-!
# Explaining texts

A structural rule explains a text if its pattern with named groups matches the whole text and the
groups it needs took part: all groups of a composition or a repetition, any group of a choice. The
explanation of a text is that of the first rule, in the order of declaration, that explains it.
Rules that reach an excluded rule are passed over, since they would only wrap the text again, and so
are literal rules, which have no parts.

Main definition: `CompiledGrammar.explain`.
-/

namespace PatternGrammar

open PatternGrammar.Text (Span slice)

/-- A rule that explains a text, with the spans of its groups. -/
structure Explanation where
  rule : Rule
  groups : List (Option Span)
deriving DecidableEq, Repr, Inhabited

namespace Explanation

/-- The part of the text that a group covers. -/
def groupText (e : Explanation) (text : String) (index : Nat) : Option String :=
  ((e.groups[index]?).join).map (slice text)

end Explanation

/-- What becomes of a rule that is tried on a text. -/
inductive Attempt where
  | noMatch
  /-- The pattern matches, but groups that are needed took no part. -/
  | groupsEmpty
  | explains (groups : List (Option Span))
deriving DecidableEq, Repr, Inhabited

namespace Description

/-- Whether the groups that a description needs took part. -/
def groupsPopulated (d : Description) (groups : List (Option Span)) : Bool :=
  match d with
  | choice _ => groups.any Option.isSome
  | _ => !groups.isEmpty && groups.all Option.isSome

/-- The names of the groups of a description. -/
def groupNames (d : Description) : List String :=
  (List.range d.groupCount).map groupName

end Description

namespace CompiledRule

/-- Tries a rule on a text. -/
def attempt (r : CompiledRule) (text : String) : Attempt :=
  match r.groups.named r.rule.description.groupNames text with
  | none => .noMatch
  | some groups =>
    if r.rule.description.groupsPopulated groups then .explains groups else .groupsEmpty

end CompiledRule

namespace CompiledGrammar

/-- The rules that are tried where a name is excluded. -/
def candidates (g : CompiledGrammar) (exclude : String) : List CompiledRule :=
  let names := g.ancestors exclude
  g.rules.filter fun r => !names.contains r.rule.name && !r.rule.description.isLiteral

/-- The explanation of a text by the first of the rules that explains it. -/
def explainBy (text : String) : List CompiledRule → Option Explanation
  | [] => none
  | r :: rs =>
    match r.attempt text with
    | .explains groups => some ⟨r.rule, groups⟩
    | _ => explainBy text rs

/-- The explanation of a text, apart from rules that reach the excluded one. -/
def explain (g : CompiledGrammar) (text exclude : String) : Option Explanation :=
  explainBy text (g.candidates exclude)

/-- What becomes of the rules that are tried on a text, up to the one that explains it; rules that
do not match are left out. -/
def attempts (text : String) : List CompiledRule → List (Rule × Attempt)
  | [] => []
  | r :: rs =>
    match r.attempt text with
    | .noMatch => attempts text rs
    | .groupsEmpty => (r.rule, .groupsEmpty) :: attempts text rs
    | .explains groups => [(r.rule, .explains groups)]

end CompiledGrammar

end PatternGrammar
