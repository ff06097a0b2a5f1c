import PatternGrammar.Grammar.Basic

/-!
# Expanding rules

A rule expands to a regular expression in which every reference is replaced by the expansion of the
rule that it names, in a group of its own. `Description.assemble` builds the expansion of a
description from those of its components; `Description.assembleGroups` does the same with each
component in a named group, by which a match can be taken apart again.

`Grammar.expandPlain` expands a rule by recursion alone. `Grammar.expandRule` keeps what it has
expanded in a memo, tells a reference to no rule and a cycle of references apart, and is what
compiling uses.
-/

namespace PatternGrammar

/-- Why a grammar cannot be expanded. -/
inductive ReferenceError where
  /-- A rule refers to a name that no rule has. -/
  | unknown (rule reference : String)
  /-- Rules refer to each other in a circle; the path begins and ends with the same name. -/
  | cycle (path : List String)
deriving DecidableEq, Repr, Inhabited

/-- A pattern in a group that records nothing. -/
def grouped (body : String) : String :=
  "(?:" ++ body ++ ")"

/-- The name of the group of a component. -/
def groupName (index : Nat) : String :=
  "__part" ++ toString index

/-- A pattern in the named group of a component. -/
def groupedAs (index : Nat) (body : String) : String :=
  "(?P<" ++ groupName index ++ ">" ++ body ++ ")"

namespace Description

/-- The pattern of a description, from the patterns of its components. A repetition without a
quantifier has the empty pattern. -/
def assemble (d : Description) (bodies : List String) : String :=
  match d with
  | repetition _ min max =>
    match Quantifier.ofBounds? min max with
    | some q => String.join (bodies.map grouped) ++ q.text
    | none => ""
  | choice _ => "|".intercalate (bodies.map grouped)
  | literal _ => String.join bodies
  | composition _ => String.join (bodies.map grouped)

/-- The pattern of a description with each component in its named group. -/
def assembleGroups (d : Description) (bodies : List String) : String :=
  let groups := bodies.mapIdx groupedAs
  match d with
  | repetition _ min max =>
    match Quantifier.ofBounds? min max with
    | some q => String.join groups ++ q.text
    | none => ""
  | choice _ => "|".intercalate groups
  | literal _ => String.join groups
  | composition _ => String.join groups

/-- Whether a description is a repetition whose bounds have no quantifier. -/
def isDegenerate : Description → Bool
  | repetition _ min max => (Quantifier.ofBounds? min max).isNone
  | _ => false

/-- How many named groups the pattern with groups has. -/
def groupCount (d : Description) : Nat :=
  if d.isDegenerate then 0 else d.components.length

end Description

namespace Grammar

/-- What has been expanded so far: names with their patterns, in the order of completion. -/
abbrev Memo := List (String × String)

/-- A result together with the memo after it. The memo outlives a failure. -/
abbrev Expanding (α : Type) := Memo → Except ReferenceError α × Memo

/-- The patterns of a row of components, by a function that expands a reference. -/
def expandParts (reference : String → Expanding String) : List Part → Expanding (List String)
  | [], memo => (.ok [], memo)
  | part :: parts, memo =>
    let (body, memo) :=
      match part with
      | .name name => reference name memo
      | .literal pattern => (.ok pattern, memo)
    match body with
    | .error e => (.error e, memo)
    | .ok body =>
      match expandParts reference parts memo with
      | (.error e, memo) => (.error e, memo)
      | (.ok bodies, memo) => (.ok (body :: bodies), memo)

/-- The part of a path from a name on, closed to a circle. -/
def cyclePath (path : List String) (name : String) : List String :=
  path.dropWhile (· != name) ++ [name]

/-- Expands a rule. `path` holds the names of the rules that are being expanded, from the outermost;
no name stands twice in it, so that a depth of one more than the number of rules is never used
up. -/
def expandWithin (g : Grammar) : Nat → List String → Rule → Expanding String
  | 0, path, r, memo => (.error (.cycle (cyclePath path r.name)), memo)
  | depth + 1, path, r, memo =>
    match memo.lookup r.name with
    | some pattern => (.ok pattern, memo)
    | none =>
      if path.contains r.name then (.error (.cycle (cyclePath path r.name)), memo)
      else
        let reference (name : String) : Expanding String := fun memo =>
          match g.get? name with
          | none => (.error (.unknown r.name name), memo)
          | some target => expandWithin g depth (path ++ [r.name]) target memo
        match expandParts reference r.description.components memo with
        | (.error e, memo) => (.error e, memo)
        | (.ok bodies, memo) =>
          let pattern := r.description.assemble bodies
          (.ok pattern, memo ++ [(r.name, pattern)])

/-- Expands a rule of the grammar with what is in the memo. -/
def expandRule (g : Grammar) (r : Rule) : Expanding String :=
  expandWithin g (g.rules.length + 1) [] r

/-- The pattern of a rule with its components in named groups. -/
def expandGroups (g : Grammar) (r : Rule) : Expanding String := fun memo =>
  let reference (name : String) : Expanding String := fun memo =>
    match g.get? name with
    | none => (.error (.unknown r.name name), memo)
    | some target => expandRule g target memo
  match expandParts reference r.description.components memo with
  | (.error e, memo) => (.error e, memo)
  | (.ok bodies, memo) => (.ok (r.description.assembleGroups bodies), memo)

/-- The expansion of a rule by recursion to the given depth, with the empty pattern for what lies
deeper or names no rule. -/
def expandPlain (g : Grammar) : Nat → Rule → String
  | 0, _ => ""
  | depth + 1, r =>
    r.description.assemble
      (r.description.components.map fun
        | .name name => ((g.get? name).map (expandPlain g depth)).getD ""
        | .literal pattern => pattern)

end Grammar

end PatternGrammar
