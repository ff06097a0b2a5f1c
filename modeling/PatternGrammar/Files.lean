import PatternGrammar.Grammar.Reader

/-!
# Files

The files that a program can see, under their paths. A path is looked up as it is written, and then
by its names: single points and empty names in it say nothing, two points lead back out of a
directory. A path with files below it is a directory. Outside of the outermost directory nothing is
known but the directories around it.
-/

namespace PatternGrammar

/-- What stands under a path. -/
inductive FileEntry where
  | file (bytes : ByteArray)
  | directory
deriving Inhabited

/-- The files and directories with their paths. -/
structure Files where
  entries : List (String × FileEntry) := []

namespace Files

/-- The names of a path, without those that say nothing. -/
def names (path : String) : List String :=
  (path.splitOn "/").filter fun n => n != "" && n != "."

/-- What stands under a row of names. -/
def at? (fs : Files) (path : List String) : Option FileEntry :=
  if path.isEmpty then some .directory
  else
    match fs.entries.find? fun e => names e.1 == path with
    | some e => some e.2
    | none => if fs.entries.any fun e => path.isPrefixOf (names e.1) then some .directory else none

/-- What a row of names leads to outside of the outermost directory. -/
def outside (path : List String) : Except SourceFault FileEntry :=
  if path.all (· == "..") then .ok .directory else .error .notFound

/-- Follows names from a directory. -/
def follow (fs : Files) (here : List String) : List String → Except SourceFault FileEntry
  | [] =>
    match fs.at? here with
    | some e => .ok e
    | none => .error .notFound
  | n :: rest =>
    match fs.at? here with
    | some .directory =>
      if n == ".." then
        if here.isEmpty then outside rest else follow fs here.dropLast rest
      else follow fs (here ++ [n]) rest
    | some (.file _) => .error .notADirectory
    | none => .error .notFound

/-- What stands under a path. The empty path stands for nothing, and a path that ends in a slash, or
in a point behind one, for a directory only. -/
def find (fs : Files) (path : String) : Except SourceFault FileEntry :=
  match fs.entries.lookup path with
  | some e => .ok e
  | none =>
    if path.isEmpty then .error .notFound
    else if path.startsWith "/" then outside (names path)
    else
      match fs.follow [] (names path) with
      | .ok (.file bytes) =>
        if path.endsWith "/" || path.endsWith "/." then .error .notADirectory
        else .ok (.file bytes)
      | result => result

/-- The bytes of a file. -/
def read (fs : Files) (path : String) : Except SourceFault ByteArray := do
  match ← fs.find path with
  | .file bytes => return bytes
  | .directory => .error .isDirectory

/-- The text of a file. -/
def readText (fs : Files) (path : String) : Except SourceFault String := do
  match String.fromUTF8? (← fs.read path) with
  | some s => return s
  | none => .error .notUtf8

/-- Whether a path stands for a file. -/
def isFile (fs : Files) (path : String) : Bool :=
  match fs.find path with
  | .ok (.file _) => true
  | _ => false

/-- Whether a path stands for anything. -/
def exists? (fs : Files) (path : String) : Bool :=
  match fs.find path with
  | .ok _ => true
  | .error _ => false

end Files

/-- Reads the grammar in a file. -/
def Grammar.parseFile (fs : Files) (path : String) : Except ReadError Grammar :=
  match fs.read path with
  | .ok bytes => parseBytes bytes.toList
  | .error e => .error (.source e)

end PatternGrammar
