import PatternGrammar.Text.Quoted
import PatternGrammar.Tree.Basic

/-!
# Trees as indented lines

One line for each node in pre-order. A line shows the place of its node by bars and corners, an icon
for the shape of its rule, the name of the rule, the span if asked for, and the text of the span,
escaped and cut off after a number of characters.
-/

namespace PatternGrammar.Format.Treeviz

/-- How lines are written. -/
structure Options where
  /-- How many characters of escaped text a line shows. -/
  truncate : Nat := 30
  /-- Whether lines show spans. -/
  showSpans : Bool := true
deriving DecidableEq, Repr, Inhabited

/-- The first characters of a text, followed by three points if there are more. -/
def cut (limit : Nat) (cs : List Char) : List Char :=
  if limit < cs.length then cs.take limit ++ ['.', '.', '.'] else cs

/-- The icon of a node. -/
def icon (t : Tree) : String :=
  if t.isRoot then "⧉"
  else
    match t.rule.description with
    | .composition _ => "≔"
    | .repetition .. => "☰"
    | .choice _ => "•"
    | .literal _ => "◦"

/-- The name that a line shows. -/
def shownName (t : Tree) : String :=
  if t.isRoot then "<root>" else t.ruleName

/-- What a line shows of its node. -/
def label (options : Options) (t : Tree) : String :=
  icon t ++ " " ++ shownName t ++ " "
    ++ (if options.showSpans then t.span.text ++ " " else "")
    ++ "\"" ++ String.ofList (cut options.truncate (Text.escapeText t.text.toList)) ++ "\""

/-- What stands in front of the label of a node, by whether it is the last child of its parent. -/
def connector (last : Bool) : String :=
  if last then "└─ " else "├─ "

/-- What stands in front of the lines below a node, by whether it is the last child of its
parent. -/
def indent (last : Bool) : String :=
  if last then "  " else "│ "

mutual

/-- The lines of a node and of what is below it. `margin` stands in front of each of them. -/
def nodeLines (options : Options) (margin : String) (last : Bool) : Tree → String
  | .node rule span text children =>
    margin ++ connector last ++ label options (.node rule span text children) ++ "\n"
      ++ childrenLines options (margin ++ indent last) children

/-- The lines of a row of siblings. -/
def childrenLines (options : Options) (margin : String) : List Tree → String
  | [] => ""
  | [t] => nodeLines options margin true t
  | t :: ts => nodeLines options margin false t ++ childrenLines options margin ts

end

theorem childrenLines_cons (options : Options) (margin : String) (t : Tree) (ts : List Tree) :
    childrenLines options margin (t :: ts) =
      nodeLines options margin ts.isEmpty t ++ childrenLines options margin ts := by
  cases ts with
  | nil => simp [childrenLines]
  | cons u us =>
    rw [childrenLines]
    · rfl
    · simp

/-- The lines of a tree. -/
def render (options : Options) (t : Tree) : String :=
  label options t ++ "\n" ++ childrenLines options "" t.children

end PatternGrammar.Format.Treeviz
