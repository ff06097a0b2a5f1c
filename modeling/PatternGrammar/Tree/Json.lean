import PatternGrammar.Rule.Json
import PatternGrammar.Tree.Basic

/-!
# Trees as JSON

A node is an object with its rule, its span, its text and the list of its children, in this order.
-/

namespace PatternGrammar

/-- A span as JSON. -/
def Text.Span.toJson (s : Text.Span) : Json :=
  .obj [("start", .nat s.start), ("end", .nat s.stop)]

namespace Tree

mutual

/-- A tree as JSON. -/
def toJson : Tree → Json
  | node rule span text children =>
    .obj [("rule", rule.toJson), ("span", span.toJson), ("text", .str text),
      ("children", .arr (rowToJson children))]

/-- A row of trees as JSON values. -/
def rowToJson : List Tree → List Json
  | [] => []
  | t :: ts => t.toJson :: rowToJson ts

end

end Tree

end PatternGrammar
