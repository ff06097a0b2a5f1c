import PatternGrammar.Format.Tag
import PatternGrammar.Format.Treeviz
import PatternGrammar.Tree.Json
import PatternGrammar.Yaml.Text

/-!
# Output formats

The formats in which a tree can be written, and registries that find a format by its name. A
registry holds at most one format of each name; registering another one replaces it. Formats are
listed in the order of their names.

Main definitions: `Format`, `Format.render`, `Registry`.
-/

namespace PatternGrammar

/-- A way to write trees. -/
inductive Format where
  | treeviz (options : Format.Treeviz.Options)
  | tag
  | json
  | yaml
deriving DecidableEq, Repr, Inhabited

namespace Format

/-- The name by which a format is asked for. -/
def name : Format → String
  | treeviz _ => "treeviz"
  | tag => "tag"
  | json => "json"
  | yaml => "yaml"

/-- What a format is, in a few words. -/
def summary : Format → String
  | treeviz _ => "Indented tree, one line per node"
  | tag => "XML-like nested tags with spans"
  | json => "Pretty-printed JSON of the full tree"
  | yaml => "YAML document of the full tree"

/-- A tree in a format. -/
def render : Format → Tree → String
  | treeviz options, t => Treeviz.render options t
  | tag, t => Tag.render t
  | json, t => t.toJson.pretty
  | yaml, t => Yaml.document t.toJson

end Format

/-- A format that is not registered was asked for. -/
structure FormatNotFound where
  name : String
deriving DecidableEq, Repr, Inhabited

/-- The message of the error. -/
def FormatNotFound.message (e : FormatNotFound) : String :=
  "Format '" ++ e.name ++ "' not found"

/-- Formats in the order of their names. -/
structure Registry where
  formats : List Format := []
deriving DecidableEq, Repr, Inhabited

namespace Registry

/-- Puts a format into a row in the order of names, in place of one with its name. -/
def insert (f : Format) : List Format → List Format
  | [] => [f]
  | g :: gs =>
    if f.name = g.name then f :: gs
    else if f.name < g.name then f :: g :: gs
    else g :: insert f gs

/-- Registers a format. -/
def register (r : Registry) (f : Format) : Registry :=
  ⟨insert f r.formats⟩

/-- The format with a name. -/
def get? (r : Registry) (name : String) : Option Format :=
  r.formats.find? fun f => f.name == name

/-- Whether a format is registered. -/
def has (r : Registry) (name : String) : Bool :=
  (r.get? name).isSome

/-- The names of the registered formats, in order. -/
def names (r : Registry) : List String :=
  r.formats.map Format.name

/-- The names and summaries of the registered formats, in order. -/
def summaries (r : Registry) : List (String × String) :=
  r.formats.map fun f => (f.name, f.summary)

/-- A tree in the format with a name. -/
def render (r : Registry) (t : Tree) (name : String) : Except FormatNotFound String :=
  match r.get? name with
  | some f => .ok (f.render t)
  | none => .error ⟨name⟩

/-- All formats with their default options. -/
def standard : Registry :=
  ((({} : Registry).register (.treeviz {})).register .tag).register .json |>.register .yaml

end Registry

end PatternGrammar
