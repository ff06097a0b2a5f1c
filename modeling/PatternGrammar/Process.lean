import PatternGrammar.Files
import PatternGrammar.Format.Registry
import PatternGrammar.Settings.Loader
import PatternGrammar.Tree.Builder

/-!
# From texts to output

The whole way from the text of a grammar and an input to the written tree, and the errors that can
end it. The format is checked before anything is read, so that an unknown format is reported
whatever the grammar and the input are.

Main definitions: `process`, `processFiles`, `Failure`.
-/

namespace PatternGrammar

/-- Why no output comes about. -/
inductive Failure where
  | fileNotFound (path : String)
  | unreadable (fault : SourceFault)
  /-- No rule has the name. -/
  | unknownRule (name : String)
  | settings (e : SettingsError)
  | read (e : ReadError)
  | compile (e : CompileError)
  | depth (e : DepthExceeded)
  | format (e : FormatNotFound)
deriving DecidableEq, Repr, Inhabited

/-- The message of a failure. What is wrong with settings is left to their reader. -/
def Failure.message : Failure → String
  | fileNotFound path => "File not found: " ++ path
  | unreadable fault => "IO error: " ++ fault.message
  | unknownRule name => "Unknown rule: " ++ name
  | settings _ => "Configuration error: "
  | read e => e.message
  | compile e => e.message
  | depth e => e.message
  | format e => e.message

/-- How a tree is built and written. -/
structure Options where
  format : String := "treeviz"
  maxDepth : Nat := Builder.defaultMaxDepth
  treeviz : Format.Treeviz.Options := {}
deriving DecidableEq, Repr, Inhabited

namespace Options

/-- The options that settings ask for. -/
def ofSettings (s : Settings) : Options :=
  ⟨s.format, s.maxDepth, ⟨s.truncate, s.showSpans⟩⟩

/-- The formats. The one for indented lines is replaced by one that writes as the options ask for. -/
def registry (o : Options) : Registry :=
  Registry.standard.register (.treeviz o.treeviz)

end Options

/-- Reads and compiles a grammar. -/
def compileSource (source : String) : Except Failure CompiledGrammar := do
  let g ← (Grammar.parse source).mapError .read
  g.compile.mapError .compile

/-- The pattern of a rule, plain or with named groups. -/
def rulePattern (g : CompiledGrammar) (rule : String) (groups : Bool) : Except Failure String :=
  match g.find? rule with
  | some r => .ok (if groups then r.groupPattern else r.pattern)
  | none => .error (.unknownRule rule)

/-- Builds the tree of an input. -/
def parseTree (g : CompiledGrammar) (input : String) (o : Options) : Except Failure Tree :=
  ((⟨g, input, o.maxDepth⟩ : Builder).build).mapError .depth

/-- Writes the tree of an input in the format that the options name. -/
def process (source input : String) (o : Options) : Except Failure String := do
  if o.registry.has o.format then
    let g ← compileSource source
    let t ← parseTree g input o
    (o.registry.render t o.format).mapError .format
  else .error (.format ⟨o.format⟩)

/-- The text of a file that has to exist. -/
def readSource (fs : Files) (path : String) : Except Failure String :=
  if fs.exists? path then (fs.readText path).mapError .unreadable else .error (.fileNotFound path)

/-- Writes the tree of a file by the grammar in another file. -/
def processFiles (fs : Files) (grammarPath inputPath : String) (o : Options) :
    Except Failure String := do
  let source ← readSource fs grammarPath
  let input ← readSource fs inputPath
  process source input o

end PatternGrammar
