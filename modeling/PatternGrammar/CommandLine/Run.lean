import PatternGrammar.CommandLine.Arguments
import PatternGrammar.Event

/-!
# Running a command line

`CommandLine.run` gives what a command writes for the files it sees: its output, its messages, and
the exit code. Messages come in the order of the events, before the error that ends a command.

Main definitions: `Report`, `run`.
-/

namespace PatternGrammar.CommandLine

/-- What a command writes, and its exit code. -/
structure Report where
  code : UInt8 := 0
  output : String := ""
  messages : String := ""
deriving DecidableEq, Repr, Inhabited

/-- The exit code for a failure. -/
def failureCode : UInt8 := 1

/-- The exit code for arguments that are not understood. -/
def usageCode : UInt8 := 2

/-- The name and version of the program. -/
def versionText : String := "regram 0.1.0\n"

/-- A text that ends with a line break. -/
def asLine (s : String) : String :=
  if s.endsWith "\n" then s else s ++ "\n"

/-- The text that reports a failure. Where the message ends with a colon, what belongs behind it is
not known, and the line stays open. -/
def failureText (f : Failure) : String :=
  let stop :=
    match f with
    | .settings _ | .compile (.invalidPattern ..) => ""
    | _ => "\n"
  "Error: " ++ f.message ++ stop

/-- The settings of a job: the defaults, its file, and the values on the command line. -/
def settingsOf (fs : Files) (job : Job) : Except Failure Settings :=
  let withFile (l : Settings.Loader) :=
    job.config.elim l fun path => l.withFile path true
  let withFormat (l : Settings.Loader) :=
    job.format.elim l fun name => l.setAt [.entry "output", .entry "format"] (.str name)
  let withDepth (l : Settings.Loader) :=
    job.maxDepth.elim l fun depth => l.setAt [.entry "parse", .entry "max_depth"] (.int depth)
  ((withDepth (withFormat (withFile {}))).build fs).mapError .settings

/-- The messages that are shown: those that the command line asks for, or else the settings. -/
def filterOf (job : Job) (s : Settings) : LevelFilter :=
  match job.verbosity with
  | 0 => s.levelFilter?.getD (some .warn)
  | 1 => some .info
  | 2 => some .debug
  | _ => some .trace

/-- The list of formats. -/
def formatsText (o : Options) : String :=
  "Available formats:\n\n"
    ++ String.join (o.registry.summaries.map fun (name, summary) =>
      "  " ++ name ++ "\n    " ++ summary ++ "\n")

/-- The events of work on the text of a file, none if it cannot be read. -/
def eventsOf (source : Except Failure String) (work : String → List Event) : List Event :=
  match source with
  | .ok text => work text
  | .error _ => []

/-- What a command writes, or why it fails. -/
def output (fs : Files) (o : Options) : Command → Except Failure String
  | .parse grammar input => (processFiles fs grammar input o).map asLine
  | .regex grammar rule direct => do
    let g ← compileSource (← readSource fs grammar)
    return (← rulePattern g rule direct) ++ "\n"
  | .check grammar => do
    let g ← compileSource (← readSource fs grammar)
    return "OK: " ++ toString g.rules.length ++ " rules, start rule '" ++ g.startRule.name ++ "'\n"
  | .rules grammar => do
    let g ← (Grammar.parse (← readSource fs grammar)).mapError .read
    return g.text
  | .listFormats => return formatsText o

/-- The events of a command. -/
def events (fs : Files) (o : Options) : Command → List Event
  | .parse grammar input =>
    eventsOf (readSource fs grammar) fun source =>
      eventsOf (readSource fs input) fun text => Event.ofProcess source text o
  | .regex grammar _ _ | .check grammar => eventsOf (readSource fs grammar) Event.ofSource
  | .rules grammar => eventsOf (readSource fs grammar) Event.ofReading
  | .listFormats => []

/-- Runs a job. -/
def runJob (fs : Files) (job : Job) : Report :=
  match settingsOf fs job with
  | .error f => ⟨failureCode, "", failureText f⟩
  | .ok s =>
    let o := Options.ofSettings s
    let messages :=
      Event.shown (filterOf job s)
        (.commandBegins job.command.name s :: events fs o job.command)
    match output fs o job.command with
    | .ok text => ⟨0, text, messages⟩
    | .error f => ⟨failureCode, "", messages ++ failureText f⟩

/-- Runs a command line on the files that it sees. -/
def run (fs : Files) (args : List String) : Report :=
  match Request.read args with
  | none => ⟨usageCode, "", ""⟩
  | some .version => ⟨0, versionText, ""⟩
  | some (.run job) => runJob fs job

/-- The paths of the files that a command line may read. -/
def pathsOf (args : List String) : List String :=
  match Request.read args with
  | some (.run job) =>
    let config := job.config.elim [] fun path => [path, path ++ Settings.fileEnding]
    config ++
      match job.command with
      | .parse grammar input => [grammar, input]
      | .regex grammar _ _ | .check grammar | .rules grammar => [grammar]
      | .listFormats => []
  | _ => []

end PatternGrammar.CommandLine
