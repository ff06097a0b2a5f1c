import PatternGrammar.Json.Text
import PatternGrammar.Yaml.Scalar

/-!
# Writing YAML

A value made of objects, lists and scalars as a YAML document in block style. A field stands on a
line of its own; an object below a field is indented by two columns, a list below a field is not.
-/

namespace PatternGrammar.Yaml

/-- The blanks in front of a column. -/
def margin (column : Nat) : String :=
  String.ofList (List.replicate column ' ')

/-- A value that is no object and no list with items, with what ends its line. -/
def scalarLine (column : Nat) (s : String) : String :=
  let written := scalar column s
  if style s.toList = .literal ∧ s.toList.getLast?.any isBreak then written else written ++ "\n"

mutual

/-- What follows a hyphen or the colon of a field at a column: a scalar on the same line, or an
object or a list on the lines below. -/
def fieldValue (column : Nat) : Json → String
  | .null => " null\n"
  | .bool b => if b then " true\n" else " false\n"
  | .int n => " " ++ Json.intText n ++ "\n"
  | .decimal s => " " ++ s ++ "\n"
  | .str s => " " ++ scalarLine (column + 2) s
  | .arr [] => " []\n"
  | .arr (j :: js) => "\n" ++ items column (j :: js)
  | .obj [] => " \x7b\x7d\n"
  | .obj (f :: fs) => "\n" ++ fields (column + 2) (margin (column + 2)) (f :: fs)

/-- The items of a list at a column. -/
def items (column : Nat) : List Json → String
  | [] => ""
  | .obj (f :: fs) :: js =>
    margin column ++ "- " ++ fields (column + 2) "" (f :: fs) ++ items column js
  | j :: js => margin column ++ "-" ++ fieldValue column j ++ items column js

/-- The fields of an object at a column. `front` stands in front of the first of them. -/
def fields (column : Nat) (front : String) : List (String × Json) → String
  | [] => ""
  | (k, j) :: fs => front ++ k ++ ":" ++ fieldValue column j ++ fields column (margin column) fs

end

/-- A value as a document. -/
def document (j : Json) : String :=
  match j with
  | .obj (f :: fs) => fields 0 "" (f :: fs)
  | .arr (j :: js) => items 0 (j :: js)
  | j => String.ofList ((fieldValue 0 j).toList.drop 1)

end PatternGrammar.Yaml
