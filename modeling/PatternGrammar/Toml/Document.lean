import PatternGrammar.Toml.Basic

/-!
# TOML documents under construction

The tables of a document remember how they came about, since that decides which of them a later
line may extend: a table may be opened by a header once, and a header or a dotted key may pass
through tables that only stand for the names in front of a point.
-/

namespace PatternGrammar.Toml

/-- How a table came about. -/
inductive Origin where
  /-- By its header. -/
  | header
  /-- As the table around one that a header opened. -/
  | around
  /-- By a dotted key. -/
  | dotted
deriving DecidableEq, Repr

/-- An entry of a document. -/
inductive Entry where
  | value (v : Toml)
  | table (origin : Origin) (entries : List (String × Entry))
  /-- The tables that headers in double brackets opened, the last one first. -/
  | tables (last : List (String × Entry)) (before : List (List (String × Entry)))

/-- The entries of a table. -/
abbrev Entries := List (String × Entry)

/-- Puts an entry in the place of one with its name, or at the end. -/
def put (name : String) (e : Entry) : Entries → Entries
  | [] => [(name, e)]
  | (n, old) :: rest => if n = name then (n, e) :: rest else (n, old) :: put name e rest

/-- Changes the table that a header's path leads to. Names on the way that stand for nothing become
tables; the last of the tables in double brackets is passed through. -/
def atHeader (change : Entries → Option Entries) : List String → Entries → Option Entries
  | [], es => change es
  | name :: path, es =>
    match es.lookup name with
    | none => do return put name (.table .around (← atHeader change path [])) es
    | some (.table origin inner) => do
      return put name (.table origin (← atHeader change path inner)) es
    | some (.tables last before) => do
      return put name (.tables (← atHeader change path last) before) es
    | some (.value _) => none

/-- Opens a table by its header. -/
def openTable (name : String) (es : Entries) : Option Entries :=
  match es.lookup name with
  | none => some (put name (.table .header []) es)
  | some (.table .around inner) => some (put name (.table .header inner) es)
  | some _ => none

/-- Opens one more of the tables with a name in double brackets. -/
def openTables (name : String) (es : Entries) : Option Entries :=
  match es.lookup name with
  | none => some (put name (.tables [] []) es)
  | some (.tables last before) => some (put name (.tables [] (last :: before)) es)
  | some _ => none

/-- Sets the value of a key, with dots or without, in a table. A key with dots leads into tables
that came about by such keys; on its way it may pass through tables around others and through the
last of the tables in double brackets. -/
def setKey (v : Toml) : List String → Entries → Option Entries
  | [], _ => none
  | [name], es =>
    match es.lookup name with
    | none => some (put name (.value v) es)
    | some _ => none
  | name :: path, es =>
    match es.lookup name with
    | none => do return put name (.table .dotted (← setKey v path [])) es
    | some (.table .dotted inner) => do return put name (.table .dotted (← setKey v path inner)) es
    | some (.table .around inner) => do
      if path.length = 1 then none
      else return put name (.table .around (← setKey v path inner)) es
    | some (.tables last before) => do
      if path.length = 1 then none
      else return put name (.tables (← setKey v path last) before) es
    | some _ => none

mutual

/-- The value of an entry. -/
def Entry.toToml : Entry → Toml
  | .value v => v
  | .table _ es => .table (entriesToToml es)
  | .tables last before => .arr (rowsToToml before ++ [.table (entriesToToml last)])

/-- The values of entries with their names. -/
def entriesToToml : Entries → List (String × Toml)
  | [] => []
  | (n, e) :: es => (n, e.toToml) :: entriesToToml es

/-- The values of a row of tables whose last one comes first. -/
def rowsToToml : List Entries → List Toml
  | [] => []
  | es :: rows => rowsToToml rows ++ [.table (entriesToToml es)]

end

end PatternGrammar.Toml
