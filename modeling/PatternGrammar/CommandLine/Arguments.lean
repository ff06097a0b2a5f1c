
/-!
# Arguments of the command line

An argument is an option, a row of short options behind one dash, or an operand. The value of an
option stands behind an equals sign, directly behind a short option, or in the next argument, which
then must not look like an option. After two dashes all arguments are operands. `readArguments`
takes the arguments of one level apart, `Request.read` decides what they ask for. Arguments that are
not understood ask for nothing.

Main definitions: `Request`, `Request.read`.
-/

namespace PatternGrammar.CommandLine

/-- The options. -/
inductive Flag where
  | config
  | verbose
  | version
  | format
  | maxDepth
  | direct
deriving DecidableEq, Repr, Inhabited

namespace Flag

/-- The long name of an option. -/
def long : Flag → String
  | config => "config"
  | verbose => "verbose"
  | version => "version"
  | format => "format"
  | maxDepth => "max-depth"
  | direct => "direct"

/-- The short name of an option. -/
def short? : Flag → Option Char
  | config => some 'c'
  | verbose => some 'v'
  | version => some 'V'
  | format => some 'f'
  | maxDepth | direct => none

/-- Whether a value belongs to an option. -/
def takesValue : Flag → Bool
  | config | format | maxDepth => true
  | verbose | version | direct => false

/-- Whether an option may be given more than once. -/
def repeats : Flag → Bool
  | verbose => true
  | _ => false

end Flag

/-- A part of a command line: an option, with the empty value if it takes none, or an operand. -/
inductive Item where
  | flag (f : Flag) (value : String)
  | operand (text : String)
deriving DecidableEq, Repr, Inhabited

namespace Item

/-- The option of an item. -/
def flag? : Item → Option Flag
  | flag f _ => some f
  | operand _ => none

/-- The text of an operand. -/
def operand? : Item → Option String
  | flag .. => none
  | operand text => some text

/-- The value of an option in a row of items. -/
def valueOf? (f : Flag) (items : List Item) : Option String :=
  items.findSome? fun
    | flag g value => if g == f then some value else none
    | operand _ => none

/-- How often an option is given. -/
def countOf (f : Flag) (items : List Item) : Nat :=
  items.countP (·.flag? == some f)

/-- Whether no option is given more often than it may be. -/
def allOnce (items : List Item) : Bool :=
  items.all fun i => i.flag?.all fun f => f.repeats || countOf f items == 1

end Item

/-- Reads a row of short options. The second result is the option whose value is the next argument.
Nothing after a request for the version counts. -/
def readShort (known : List Flag) : List Char → Option (List Item × Option Flag)
  | [] => some ([], none)
  | c :: cs => do
    let f ← known.find? fun f => f.short? == some c
    if f == .version then return ([.flag f ""], none)
    else if f.takesValue then
      match cs with
      | [] => return ([], some f)
      | '=' :: value => return ([.flag f (String.ofList value)], none)
      | value => return ([.flag f (String.ofList value)], none)
    else
      let (items, pending) ← readShort known cs
      return (.flag f "" :: items, pending)

/-- Reads a long option. The second result is the option whose value is the next argument. -/
def readLong (known : List Flag) (cs : List Char) : Option (List Item × Option Flag) := do
  let name := String.ofList (cs.takeWhile (· != '='))
  let f ← known.find? fun f => f.long == name
  match f.takesValue, cs.dropWhile (· != '=') with
  | true, _ :: value => return ([.flag f (String.ofList value)], none)
  | true, [] => return ([], some f)
  | false, [] => return ([.flag f ""], none)
  | false, _ :: _ => none

/-- Reads the arguments of one level up to the name of a command, if the level has commands, or to
a request for the version. `pending` is the option whose value comes next. The second result is what
was not read. -/
def readArguments (known : List Flag) (commands : Bool) :
    Option Flag → List String → Option (List Item × List String)
  | none, [] => some ([], [])
  | some _, [] => none
  | pending, arg :: rest =>
    match pending, arg.toList with
    | none, ['-', '-'] =>
      if commands then none else some (rest.map .operand, [])
    | none, '-' :: c :: cs => do
      let (items, pending) ← if c == '-' then readLong known cs else readShort known (c :: cs)
      if items.any fun i => i.flag? == some .version then return (items, rest)
      else
        let (more, rest) ← readArguments known commands pending rest
        return (items ++ more, rest)
    | none, _ =>
      if commands then some ([], arg :: rest)
      else do
        let (more, rest) ← readArguments known commands none rest
        return (.operand arg :: more, rest)
    | some _, '-' :: _ :: _ => none
    | some f, _ => do
      let (more, rest) ← readArguments known commands none rest
      return (.flag f arg :: more, rest)

/-- What a command does. -/
inductive Command where
  | parse (grammar input : String)
  | regex (grammar rule : String) (direct : Bool)
  | check (grammar : String)
  | rules (grammar : String)
  | listFormats
deriving DecidableEq, Repr, Inhabited

/-- The name of a command. -/
def Command.name : Command → String
  | parse .. => "parse"
  | regex .. => "regex"
  | check .. => "check"
  | rules .. => "rules"
  | listFormats => "list-formats"

/-- A command with the settings that the command line asks for. -/
structure Job where
  command : Command
  config : Option String := none
  format : Option String := none
  maxDepth : Option Nat := none
  verbosity : Nat := 0
deriving DecidableEq, Repr, Inhabited

/-- What a command line asks for. -/
inductive Request where
  | version
  | run (job : Job)
deriving DecidableEq, Repr, Inhabited

/-- The options that the command with a name knows. -/
def flagsOf (command : String) : List Flag :=
  [.config, .verbose]
    ++ if command == "parse" then [.format, .maxDepth]
      else if command == "regex" then [.direct]
      else []

/-- The command with a name for the given items. -/
def commandOf? (name : String) (items : List Item) : Option Command :=
  match name, items.filterMap Item.operand? with
  | "parse", [grammar, input] => some (.parse grammar input)
  | "regex", [grammar, rule] => some (.regex grammar rule (Item.countOf .direct items != 0))
  | "check", [grammar] => some (.check grammar)
  | "rules", [grammar] => some (.rules grammar)
  | "list-formats", [] => some .listFormats
  | _, _ => none

/-- The largest depth that may be asked for. -/
def maxDepthLimit : Nat := 4294967295

/-- A depth in decimal digits, perhaps with a sign. -/
def depthOf? (value : String) : Option Nat :=
  let (negative, ds) :=
    match value.toList with
    | '-' :: ds => (true, ds)
    | '+' :: ds => (false, ds)
    | ds => (false, ds)
  if !ds.isEmpty && ds.all Char.isDigit then
    let n := ds.foldl (fun n c => 10 * n + (c.toNat - 48)) 0
    if n ≤ (if negative then 0 else maxDepthLimit) then some n else none
  else none

/-- The job that the options in front of a command, its name and its own arguments ask for. An
option of the command wins over the same one in front of it. -/
def Job.read (front : List Item) (name : String) (args : List String) : Option Job := do
  let (items, _) ← readArguments (flagsOf name) false none args
  let command ← commandOf? name items
  if Item.allOnce items then
    let depth ←
      match Item.valueOf? .maxDepth items with
      | some value => (depthOf? value).map some
      | none => some none
    let verbosity := Item.countOf .verbose items
    return {
      command
      config := Item.valueOf? .config items <|> Item.valueOf? .config front
      format := Item.valueOf? .format items
      maxDepth := depth
      verbosity := if verbosity == 0 then Item.countOf .verbose front else verbosity }
  else none

/-- What a command line asks for, if it is understood. -/
def Request.read (args : List String) : Option Request := do
  let (front, rest) ← readArguments [.config, .verbose, .version] true none args
  if Item.allOnce front then
    if Item.countOf .version front != 0 then return .version
    else
      match rest with
      | name :: args => return .run (← Job.read front name args)
      | [] => none
  else none

end PatternGrammar.CommandLine
