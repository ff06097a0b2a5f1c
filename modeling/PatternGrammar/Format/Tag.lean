import PatternGrammar.Tree.Basic

/-!
# Trees as nested tags

Each node is an element named for its rule, with its span as an attribute and its text as content.
A node without children stands on one line; the text of any other node stands on the line of its
opening tag, and its children follow, two columns deeper. The root is a document and shows no text.
-/

namespace PatternGrammar.Format.Tag

/-- A character of content, with the characters that have a meaning in elements written as
entities. -/
def escapeChar (c : Char) : List Char :=
  if c = '&' then "&amp;".toList
  else if c = '<' then "&lt;".toList
  else if c = '>' then "&gt;".toList
  else if c = '"' then "&quot;".toList
  else if c = '\n' then "&#10;".toList
  else if c = '\t' then "&#9;".toList
  else [c]

/-- A text as content. -/
def escape (s : String) : String :=
  String.ofList (s.toList.flatMap escapeChar)

/-- The blanks in front of the lines of a level. -/
def margin (level : Nat) : String :=
  String.ofList (List.replicate (2 * level) ' ')

/-- The name of the element of a node. -/
def tagName (t : Tree) : String :=
  if t.isRoot then "document" else t.ruleName

/-- The opening tag of a node. -/
def opening (t : Tree) : String :=
  "<" ++ tagName t ++ " span=\"" ++ t.span.text ++ "\">"

/-- The closing tag of a node. -/
def closing (t : Tree) : String :=
  "</" ++ tagName t ++ ">\n"

mutual

/-- The element of a node at a level. -/
def element (level : Nat) : Tree → String
  | .node rule span text children =>
    let t := Tree.node rule span text children
    if t.isRoot then
      margin level ++ opening t ++ "\n" ++ elements (level + 1) children
        ++ margin level ++ closing t
    else if children.isEmpty then margin level ++ opening t ++ escape text ++ closing t
    else
      margin level ++ opening t ++ escape text ++ "\n" ++ elements (level + 1) children
        ++ margin level ++ closing t

/-- The elements of a row of siblings at a level. -/
def elements (level : Nat) : List Tree → String
  | [] => ""
  | t :: ts => element level t ++ elements level ts

end

/-- The document of a tree. -/
def render (t : Tree) : String := element 0 t

end PatternGrammar.Format.Tag
