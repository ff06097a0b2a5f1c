import PatternGrammar.Json.Basic
import PatternGrammar.Rule.Basic

/-!
# Rules as JSON

A rule is an object with a name and a description, a description an object with the name of its
shape and the fields of that shape. `Rule.ofJson?` reads what `Rule.toJson` writes; it passes over
fields that it does not know, takes a missing upper bound for none, and reads a list of the values
of the fields in their order as the object with those fields. In such a list the kind of a part may
be its number.
-/

namespace PatternGrammar

namespace Part

/-- A part as JSON. -/
def toJson : Part → Json
  | name n => .obj [("kind", .str "name"), ("value", .str n)]
  | literal p => .obj [("kind", .str "literal"), ("value", .str p)]

end Part

namespace Description

/-- A description as JSON. -/
def toJson : Description → Json
  | repetition rule min max =>
    .obj [("kind", .str "repetition"), ("rule", .str rule), ("min", .nat min.toNat),
      ("max", max.elim .null fun n => .nat n.toNat)]
  | choice alternatives =>
    .obj [("kind", .str "choice"), ("alternatives", .arr (alternatives.map .str))]
  | literal pattern => .obj [("kind", .str "literal"), ("pattern", .str pattern)]
  | composition parts =>
    .obj [("kind", .str "composition"), ("parts", .arr (parts.map Part.toJson))]

end Description

namespace Rule

/-- A rule as JSON. -/
def toJson (r : Rule) : Json :=
  .obj [("name", .str r.name), ("description", r.description.toJson)]

end Rule

namespace Json

/-- The string that a JSON value is. -/
def str? : Json → Option String
  | str s => some s
  | _ => none

/-- The unsigned number of 32 bits that a JSON value is. -/
def word32? : Json → Option UInt32
  | int (.ofNat n) => if n < UInt32.size then some (UInt32.ofNat n) else none
  | _ => none

/-- The items of the list that a JSON value is. -/
def arr? : Json → Option (List Json)
  | arr js => some js
  | _ => none

end Json

namespace Part

/-- The part with a value of the kind that is named. -/
def ofKind? (kind value : String) : Option Part :=
  if kind = "name" then some (name value)
  else if kind = "literal" then some (literal value)
  else none

/-- The name of the kind in a list of a kind and a value: as it is, or by its number. -/
def kindInRow? : Json → Option String
  | .str kind => some kind
  | .int 0 => some "name"
  | .int 1 => some "literal"
  | _ => none

/-- The name of the kind in an object: as it is, or as the only name in an object with nothing under
it. -/
def kindInFields? : Json → Option String
  | .str kind => some kind
  | .obj [(kind, .null)] => some kind
  | .obj [(kind, .obj [])] => some kind
  | _ => none

/-- Reads a part. -/
def ofJson? : Json → Option Part
  | .arr [kind, value] => do ofKind? (← kindInRow? kind) (← value.str?)
  | .arr _ => none
  | j => do ofKind? (← kindInFields? (← j.field? "kind")) (← (← j.field? "value").str?)

end Part

namespace Description

/-- The repetition with the given fields. -/
def repetitionOf? (rule min max : Json) : Option Description := do
  let rule ← rule.str?
  let min ← min.word32?
  match max with
  | .null => return repetition rule min none
  | max => return repetition rule min (some (← max.word32?))

/-- The choice with the given alternatives. -/
def choiceOf? (alternatives : Json) : Option Description := do
  return choice (← (← alternatives.arr?).mapM Json.str?)

/-- The literal with the given pattern. -/
def literalOf? (pattern : Json) : Option Description := do
  return literal (← pattern.str?)

/-- The composition with the given parts. -/
def compositionOf? (parts : Json) : Option Description := do
  return composition (← (← parts.arr?).mapM Part.ofJson?)

/-- Reads the fields of the shape with the given name. -/
def ofFields? (kind : String) (j : Json) : Option Description := do
  if kind = "repetition" then
    repetitionOf? (← j.field? "rule") (← j.field? "min") ((j.field? "max").getD .null)
  else if kind = "choice" then choiceOf? (← j.field? "alternatives")
  else if kind = "literal" then literalOf? (← j.field? "pattern")
  else if kind = "composition" then compositionOf? (← j.field? "parts")
  else none

/-- Reads the values of the fields of the shape with the given name, in their order. -/
def ofRow? (kind : String) : List Json → Option Description
  | [rule, min, max] => if kind = "repetition" then repetitionOf? rule min max else none
  | [j] =>
    if kind = "choice" then choiceOf? j
    else if kind = "literal" then literalOf? j
    else if kind = "composition" then compositionOf? j
    else none
  | _ => none

/-- Reads a description. -/
def ofJson? : Json → Option Description
  | .arr (kind :: row) => do ofRow? (← kind.str?) row
  | .arr [] => none
  | j => do ofFields? (← (← j.field? "kind").str?) j

end Description

namespace Rule

/-- Reads a rule. -/
def ofJson? : Json → Option Rule
  | .arr [name, description] => do return ⟨← name.str?, ← Description.ofJson? description⟩
  | .arr _ => none
  | j => do
    return ⟨← (← j.field? "name").str?, ← Description.ofJson? (← j.field? "description")⟩

end Rule

end PatternGrammar
