
/-!
# Settings

How deep trees may be searched, how they are written, and which messages are shown.
-/

namespace PatternGrammar

/-- How important a message is. -/
inductive Level where
  | error
  | warn
  | info
  | debug
  | trace
deriving DecidableEq, Repr, Inhabited

namespace Level

/-- The place of a level among the others, the most important one first. -/
def rank : Level → Nat
  | error => 1
  | warn => 2
  | info => 3
  | debug => 4
  | trace => 5

/-- The name of a level in upper case. -/
def label : Level → String
  | error => "ERROR"
  | warn => "WARN"
  | info => "INFO"
  | debug => "DEBUG"
  | trace => "TRACE"

end Level

/-- The least important level of the messages that are shown, `none` if none are. -/
abbrev LevelFilter := Option Level

namespace LevelFilter

/-- Whether messages of a level are shown. -/
def shows (f : LevelFilter) (l : Level) : Bool :=
  f.any fun least => l.rank ≤ least.rank

/-- The filter with a name, in which the case of ASCII letters makes no difference. -/
def ofName? (name : String) : Option LevelFilter :=
  match String.ofList (name.toList.map Char.toLower) with
  | "off" => some none
  | "error" => some (some .error)
  | "warn" => some (some .warn)
  | "info" => some (some .info)
  | "debug" => some (some .debug)
  | "trace" => some (some .trace)
  | _ => none

/-- The name of a filter in upper case. -/
def label : LevelFilter → String
  | none => "OFF"
  | some l => l.label

end LevelFilter

/-- The settings of a run. -/
structure Settings where
  /-- The deepest level of searches that is allowed. -/
  maxDepth : Nat := 512
  /-- The name of the output format. -/
  format : String := "treeviz"
  /-- How many characters of a text a line shows. -/
  truncate : Nat := 30
  /-- Whether lines show spans. -/
  showSpans : Bool := true
  /-- The name of the least important level of the messages that are shown. -/
  logLevel : String := "warn"
deriving DecidableEq, Repr, Inhabited

namespace Settings

/-- The filter that the name of the level stands for. -/
def levelFilter? (s : Settings) : Option LevelFilter :=
  LevelFilter.ofName? s.logLevel

end Settings

end PatternGrammar
