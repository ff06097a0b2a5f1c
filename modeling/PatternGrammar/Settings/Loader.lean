import PatternGrammar.Files
import PatternGrammar.Settings.Basic
import PatternGrammar.Settings.Path
import PatternGrammar.Toml.Reader

/-!
# Loading settings

Settings come in layers: the defaults, then files one after another, then single values. A later
layer wins over an earlier one, value by value, and single values win over all files. The case of
ASCII letters in names makes no difference, and names without a meaning are passed over. A value is
converted to the type of the setting if it can be.

Main definitions: `Settings.Loader`, `Settings.Loader.build`.
-/

namespace PatternGrammar

/-- Why settings cannot be loaded. -/
inductive SettingsError where
  /-- A value cannot be converted. -/
  | wrongType
  /-- Something other than a table or a list stands where a group of settings should. -/
  | notATable
  /-- A setting of a group is missing. -/
  | missing
  /-- The text for a path to a setting writes no path. -/
  | malformedPath
  /-- A file that is needed cannot be read. -/
  | unreadableFile
  /-- A file is no TOML document. -/
  | malformedFile
deriving DecidableEq, Repr, Inhabited

namespace Settings

/-- Lays the entries of a file over a table. Their names are paths if they can be read so. -/
def overlayFile (base : Toml) (file : List (String × Toml)) : Toml :=
  file.foldl
    (fun base (name, v) => setAt v ((PathStep.parse? name).getD [.entry name]) base)
    base

/-- The words for the two truth values. -/
def truthOfWord? (word : String) : Option Bool :=
  if word == "true" || word == "on" || word == "yes" then some true
  else if word == "false" || word == "off" || word == "no" then some false
  else none

/-- The largest number of 64 bits. -/
def maxNumber : Nat := UInt64.size - 1

/-- The number of 64 bits that decimal digits write, perhaps after a plus sign. -/
def numberOfText? (s : String) : Option Nat :=
  let ds :=
    match s.toList with
    | '+' :: ds => ds
    | ds => ds
  if !ds.isEmpty && ds.all Char.isDigit then
    let n := Toml.number 10 ds
    if n ≤ maxNumber then some n else none
  else none

/-- A value as a number. -/
def toNumber : Toml → Except SettingsError Nat
  | .int (.ofNat n) => .ok n
  | .int (.negSucc _) => .error .wrongType
  | .bool b => .ok (if b then 1 else 0)
  | .float d => .ok (d.toNatUpTo maxNumber)
  | .str s =>
    match truthOfWord? (foldName s) with
    | some b => .ok (if b then 1 else 0)
    | none => (numberOfText? s).elim (.error .wrongType) .ok
  | .arr _ | .table _ => .error .wrongType

/-- A value as a truth value. -/
def toTruth : Toml → Except SettingsError Bool
  | .bool b => .ok b
  | .int n => .ok (n != 0)
  | .float d => .ok (!d.isZero)
  | .str s =>
    let word := foldName s
    if word == "1" then .ok true
    else if word == "0" then .ok false
    else (truthOfWord? word).elim (.error .wrongType) .ok
  | .arr _ | .table _ => .error .wrongType

/-- A value as a text. -/
def toText : Toml → Except SettingsError String
  | .str s => .ok s
  | .bool b => .ok (if b then "true" else "false")
  | .int n =>
    match n with
    | .ofNat n => .ok (toString n)
    | .negSucc n => .ok ("-" ++ toString (n + 1))
  | .float d => .ok d.text
  | .arr _ | .table _ => .error .wrongType

/-- The values of a group of settings in the order of the names. A list stands for the group with
its items as values. -/
def group (names : List String) : Option Toml → Except SettingsError (List (Option Toml))
  | some (.table es) => .ok (names.map fun n => es.lookup n)
  | some (.arr items) => .ok ((List.range names.length).map fun i => items[i]?)
  | _ => .error .notATable

/-- A value that has to be there. -/
def needed {α : Type} (v : Option α) : Except SettingsError α :=
  v.elim (.error .missing) .ok

/-- The settings that the entries of a table describe. A value of the wrong type is reported rather
than one that is missing. -/
def ofEntries (es : List (String × Toml)) : Except SettingsError Settings := do
  let parse ← group ["max_depth"] (es.lookup "parse")
  let output ← group ["format", "truncate", "show_spans"] (es.lookup "output")
  let log ← group ["level"] (es.lookup "log")
  match parse, output, log with
  | [depth], [format, truncate, spans], [level] =>
    let depth ← depth.mapM toNumber
    let format ← format.mapM toText
    let truncate ← truncate.mapM toNumber
    let spans ← spans.mapM toTruth
    let level ← level.mapM toText
    return {
      maxDepth := ← needed depth
      format := ← needed format
      truncate := ← needed truncate
      showSpans := ← needed spans
      logLevel := ← needed level }
  | _, _, _ => .error .missing

/-- The entries that describe settings. -/
def toEntries (s : Settings) : List (String × Toml) :=
  [
    ("parse", .table [("max_depth", .int s.maxDepth)]),
    ("output",
      .table [("format", .str s.format), ("truncate", .int s.truncate),
        ("show_spans", .bool s.showSpans)]),
    ("log", .table [("level", .str s.logLevel)])
  ]

/-- A file with settings, and whether it is needed. -/
structure Source where
  path : String
  required : Bool
deriving DecidableEq, Repr

/-- The layers of settings: files in their order, and single values with their paths. -/
structure Loader where
  sources : List Source := []
  overrides : List (Path × Toml) := []

/-- The ending of the names of files with settings. -/
def fileEnding : String := ".toml"

/-- A path with the ending of files with settings behind its last name. Slashes and points at its
end are taken away before; a path that leads back out of a directory has no last name. -/
def withEnding? (path : String) : Option String :=
  match (path.splitOn "/").reverse.dropWhile fun name => name == "" || name == "." with
  | [] => none
  | last :: before =>
    if last == ".." then none
    else some ("/".intercalate (last :: before).reverse ++ fileEnding)

/-- The path at which a file with settings is found: as it is, or with the ending added. -/
def locate? (fs : Files) (path : String) : Option String :=
  if fs.isFile path then some path else (withEnding? path).filter fs.isFile

/-- The entries of a file with settings. -/
def Source.load (fs : Files) (s : Source) : Except SettingsError (List (String × Toml)) :=
  match (locate? fs s.path).map fs.readText with
  | some (.ok text) =>
    match Toml.parse text with
    | some es => .ok es
    | none => .error .malformedFile
  | _ => if s.required then .error .unreadableFile else .ok []

namespace Loader

/-- Adds a file. -/
def withFile (l : Loader) (path : String) (required : Bool) : Loader :=
  { l with sources := l.sources ++ [⟨path, required⟩] }

/-- Sets a single value at a path. -/
def setAt (l : Loader) (path : Path) (v : Toml) : Loader :=
  { l with overrides := l.overrides ++ [(path, v)] }

/-- Sets a single value at the path that a text writes. -/
def set (l : Loader) (key : String) (v : Toml) : Except SettingsError Loader :=
  match PathStep.parse? key with
  | some path => .ok (l.setAt path v)
  | none => .error .malformedPath

/-- The settings of all layers together. -/
def build (l : Loader) (fs : Files) : Except SettingsError Settings := do
  let layers ← l.sources.mapM (Source.load fs)
  let base := layers.foldl overlayFile (.table (toEntries {}))
  ofEntries (entriesOf (l.overrides.foldl (fun base o => Settings.setAt o.2 o.1 base) base))

end Loader

end Settings

end PatternGrammar
