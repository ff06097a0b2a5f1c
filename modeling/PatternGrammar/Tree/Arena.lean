import PatternGrammar.Tree.Basic

/-!
# Trees under construction

While a tree is being built, its nodes are kept in a row in the order in which they were added. A
node is added after its parent, so that the row, read from its end, gives every node after all of
its children; `Arena.toTree` puts the tree together in that order. Trees that are finished wait in a
table, each at the number of its node, until their parents take them.
-/

namespace PatternGrammar

open PatternGrammar.Text (Span slice byteSize)

/-- A node under construction. Without a parent it is a child of the root. -/
structure PendingNode where
  parent : Option Nat
  rule : Rule
  span : Span
  children : Array Nat
deriving Repr, Inhabited

/-- The nodes of a tree under construction, and which of them are children of the root. -/
structure Arena where
  nodes : Array PendingNode := #[]
  rootChildren : Array Nat := #[]
deriving Repr, Inhabited

namespace Arena

/-- The number that the next node will get. -/
def nextId (a : Arena) : Nat := a.nodes.size

/-- Adds a node below its parent. Its number is the `nextId` of the arena before. -/
def push (a : Arena) (parent : Option Nat) (rule : Rule) (span : Span) : Arena :=
  let id := a.nextId
  let nodes := a.nodes.push ⟨parent, rule, span, #[]⟩
  match parent with
  | some p =>
    { a with nodes := nodes.modify p fun n => { n with children := n.children.push id } }
  | none => ⟨nodes, a.rootChildren.push id⟩

/-- The nodes from the given one up to a child of the root, at most the given number of them. -/
def pathFrom (a : Arena) : Nat → Option Nat → List PendingNode
  | n + 1, some id =>
    match a.nodes[id]? with
    | some node => node :: pathFrom a n node.parent
    | none => []
  | _, _ => []

/-- The nodes from the given one up to a child of the root. -/
def path (a : Arena) (node : Option Nat) : List PendingNode :=
  a.pathFrom a.nodes.size node

/-- Whether a rule already covers a span on the way from a node up to the root. -/
def onPath (a : Arena) (node : Option Nat) (rule : String) (span : Span) : Bool :=
  (a.path node).any fun n => n.rule.name == rule && n.span == span

/-- Takes the trees of nodes out of a table of finished trees, in the order of the nodes, and gives
what is left of the table. A node whose place is empty is passed over. -/
def takeTrees (table : Array (Option Tree)) : List Nat → List Tree × Array (Option Tree)
  | [] => ([], table)
  | id :: ids =>
    let tree := table[id]?.join
    let (trees, rest) := takeTrees (table.setIfInBounds id none) ids
    (tree.toList ++ trees, rest)

/-- Finishes a node: the trees of its children leave the table, and its own tree enters it. -/
def finishNode (input : String) (table : Array (Option Tree)) (id : Nat) (n : PendingNode) :
    Array (Option Tree) :=
  let (children, rest) := takeTrees table n.children.toList
  rest.setIfInBounds id (some (.node n.rule n.span (slice input n.span) children))

/-- Finishes the first nodes, as many as given, from the last of them on. -/
def finishNodes (a : Arena) (input : String) : Nat → Array (Option Tree) → Array (Option Tree)
  | 0, table => table
  | id + 1, table =>
    match a.nodes[id]? with
    | some n => a.finishNodes input id (finishNode input table id n)
    | none => a.finishNodes input id table

/-- The trees of the children of the root, and what is left of the table of finished trees. -/
def topTrees (a : Arena) (input : String) : List Tree × Array (Option Tree) :=
  takeTrees (a.finishNodes input a.nodes.size (Array.replicate a.nodes.size none))
    a.rootChildren.toList

/-- The finished tree, with the given rule at its root. -/
def toTree (a : Arena) (root : Rule) (input : String) : Tree :=
  .node root ⟨0, byteSize input.toList⟩ input (a.topTrees input).1

end Arena

end PatternGrammar
