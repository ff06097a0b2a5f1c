import PatternGrammar.Process
import PatternGrammar.Text.Quoted

/-!
# Events

What happens on the way from a grammar to a tree, as far as messages tell about it: the lines that
were read, the rules that were expanded, the searches and what they found. Each event has a level
and a source. The events of a stage are read off its data; they do not change what it gives.

Main definitions: `Event`, `Event.ofSource`, `Event.ofTree`.
-/

namespace PatternGrammar

open PatternGrammar.Text (Span slice quoteText byteSize)

/-- Something that messages tell about. -/
inductive Event where
  /-- A command begins. -/
  | commandBegins (command : String) (settings : Settings)
  /-- A line was read as a rule. -/
  | ruleRead (line : Nat) (rule : Rule)
  /-- A repetition has bounds that leave no repetition with text. -/
  | degenerateBounds (rule : String) (min : UInt32) (max : Option UInt32)
  /-- A rule was expanded. -/
  | ruleExpanded (rule pattern : String)
  /-- All rules were compiled. -/
  | grammarCompiled (rules : Nat) (start : String)
  /-- A rule matches a text, but groups that are needed took no part. -/
  | groupsEmpty (rule text : String)
  /-- A rule explains a text. -/
  | textExplained (text rule : String)
  /-- A search begins. -/
  | searchBegins (rule : String) (span : Span) (depth : Nat)
  /-- A rule that explains a text already covers its span further up. -/
  | alreadyCovered (rule : String) (span : Span)
  /-- A tree was built. -/
  | treeBuilt (nodes bytes : Nat)
deriving DecidableEq, Repr

namespace Event

/-- How important an event is. -/
def level : Event → Level
  | degenerateBounds .. => .warn
  | treeBuilt .. => .info
  | commandBegins .. | ruleRead .. | ruleExpanded .. | grammarCompiled .. => .debug
  | groupsEmpty .. | textExplained .. | searchBegins .. | alreadyCovered .. => .trace

/-- The part of the program that an event comes from. -/
def source : Event → String
  | commandBegins .. => "regram"
  | ruleRead .. => "regram::regram::dsl"
  | degenerateBounds .. | ruleExpanded .. | grammarCompiled .. | groupsEmpty ..
  | textExplained .. => "regram::regram::grammar"
  | searchBegins .. | alreadyCovered .. => "regram::regram::tree"
  | treeBuilt .. => "regram::regram::processor"

/-- Settings as the message at the start of a command shows them. -/
def settingsText (s : Settings) : String :=
  "RegramConfig \x7b parse: ParseConfig \x7b max_depth: " ++ toString s.maxDepth
    ++ " \x7d, output: OutputConfig \x7b format: " ++ quoteText s.format
    ++ ", truncate: " ++ toString s.truncate
    ++ ", show_spans: " ++ (if s.showSpans then "true" else "false")
    ++ " \x7d, log: LogConfig \x7b level: " ++ quoteText s.logLevel ++ " \x7d \x7d"

/-- The message of an event. -/
def message : Event → String
  | commandBegins command settings =>
    "running '" ++ command ++ "' with " ++ settingsText settings
  | ruleRead line rule => "line " ++ toString line ++ ": " ++ rule.text
  | degenerateBounds rule min max =>
    "rule '" ++ rule ++ "' has degenerate repetition bounds " ++ Quantifier.boundsText min max
      ++ " and never matches text"
  | ruleExpanded rule pattern => "rule '" ++ rule ++ "' => " ++ pattern
  | grammarCompiled rules start =>
    "compiled grammar with " ++ toString rules ++ " rules (start rule '" ++ start ++ "')"
  | groupsEmpty rule text =>
    "rule '" ++ rule ++ "' matches " ++ quoteText text ++ " but leaves groups empty"
  | textExplained text rule => quoteText text ++ " explained by rule '" ++ rule ++ "'"
  | searchBegins rule span depth =>
    "searching '" ++ rule ++ "' in " ++ span.text ++ " (depth " ++ toString depth ++ ")"
  | alreadyCovered rule span =>
    "'" ++ rule ++ "' already covers " ++ span.text ++ " above this node, stopping"
  | treeBuilt nodes bytes =>
    "built parse tree with " ++ toString nodes ++ " nodes for " ++ toString bytes
      ++ " bytes of input"

/-- The line that tells about an event. Detailed messages name their source. -/
def line (e : Event) : String :=
  let front := " [" ++ e.level.label ++ "] "
  let source := if e.level.rank ≤ Level.info.rank then "" else "(1) " ++ e.source ++ ": "
  front ++ source ++ e.message ++ "\n"

/-- The events of reading a grammar. -/
def ofReading (source : String) : List Event :=
  (Grammar.rulesRead 1 ((Lines.split '\n' '\r' [] source.toList).map .ok)).map fun (n, r) =>
    ruleRead n r

/-- The events of expanding the rules with the given names and patterns. -/
def ofMemo (g : Grammar) (memo : Grammar.Memo) : List Event :=
  memo.flatMap fun (name, pattern) =>
    let warning :=
      match (g.get? name).map Rule.description with
      | some (.repetition rule min max) =>
        if (Description.repetition rule min max).isDegenerate then [degenerateBounds name min max]
        else []
      | _ => []
    warning ++ [ruleExpanded name pattern]

/-- The events of compiling a grammar. -/
def ofCompiling (g : Grammar) : List Event :=
  let (result, memo) := g.compileWithMemo
  ofMemo g memo ++
    match result with
    | .ok c => [grammarCompiled c.rules.length c.startRule.name]
    | .error _ => []

/-- The events of reading and compiling a grammar. -/
def ofSource (source : String) : List Event :=
  ofReading source ++
    match Grammar.parse source with
    | .ok g => ofCompiling g
    | .error _ => []

/-- The events of explaining a text. -/
def ofExplaining (g : CompiledGrammar) (text exclude : String) : List Event :=
  (CompiledGrammar.attempts text (g.candidates exclude)).filterMap fun (r, attempt) =>
    match attempt with
    | .noMatch => none
    | .groupsEmpty => some (groupsEmpty r.name text)
    | .explains _ => some (textExplained text r.name)

/-- The events of explaining the text of a node. -/
def ofNode (b : Builder) (arena : Arena) (node : Option Nat) (nodeRule : Rule) (span : Span) :
    List Event :=
  ofExplaining b.grammar (slice b.input span) nodeRule.name ++
    match b.outcome arena node nodeRule span with
    | .covered e => [alreadyCovered e.rule.name span]
    | _ => []

/-- The events of adding the matches of a search. -/
def ofMatches (b : Builder) (s : Search) : Arena → List Span → List Event
  | _, [] => []
  | arena, span :: spans =>
    let node := arena.nextId
    let arena := arena.push s.parent s.rule span
    ofNode b arena (some node) s.rule span
      ++ ofMatches b s (b.explain arena (some node) s.rule span s.depth).1 spans

/-- The events of one search. -/
def ofSearch (b : Builder) (arena : Arena) (s : Search) : List Event :=
  searchBegins s.rule.name s.span s.depth :: ofMatches b s arena (b.found s)

/-- The events of working off a stack of searches. -/
def ofRun (b : Builder) (arena : Arena) (stack : List Search) : List Event :=
  match stack with
  | [] => []
  | s :: rest =>
    if b.maxDepth < s.depth then []
    else
      ofSearch b arena s ++ ofRun b (b.step arena s).1 ((b.step arena s).2 ++ rest)
termination_by (⟨stack.map fun s => b.maxDepth + 1 - s.depth⟩ : Budgets)
decreasing_by
  rw [List.map_append]
  refine Budgets.Below.replace fun n hn => ?_
  obtain ⟨next, hnext, rfl⟩ := List.mem_map.1 hn
  have := Builder.depth_step hnext
  show b.maxDepth + 1 - next.depth < b.maxDepth + 1 - s.depth
  omega

/-- The events of building a tree. -/
def ofBuilding (b : Builder) : List Event :=
  (if b.input.isEmpty then []
    else ofNode b {} none rootRule ⟨0, byteSize b.input.toList⟩)
    ++ ofRun b b.initial.1 b.initial.2

/-- The events of building the tree of an input and counting its nodes. -/
def ofTree (g : CompiledGrammar) (input : String) (o : Options) : List Event :=
  let b : Builder := ⟨g, input, o.maxDepth⟩
  ofBuilding b ++
    match b.build with
    | .ok t => [treeBuilt t.nodeCount (byteSize input.toList)]
    | .error _ => []

/-- The events of `process`. -/
def ofProcess (source input : String) (o : Options) : List Event :=
  if o.registry.has o.format then
    ofSource source ++
      match compileSource source with
      | .ok g => ofTree g input o
      | .error _ => []
  else []

/-- The lines of the events that a filter shows. -/
def shown (f : LevelFilter) (es : List Event) : String :=
  String.join ((es.filter fun e => f.shows e.level).map line)

end Event

end PatternGrammar
