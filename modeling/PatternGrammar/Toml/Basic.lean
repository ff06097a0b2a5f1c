import PatternGrammar.Number.Double

/-!
# TOML values

The values of a TOML document. A table has its entries in the order in which they were written;
dates and times keep their text.
-/

namespace PatternGrammar

/-- A TOML value. -/
inductive Toml where
  | str (value : String)
  | int (value : Int)
  | float (value : Double)
  | bool (value : Bool)
  | arr (items : List Toml)
  | table (entries : List (String × Toml))
deriving Repr, Inhabited

end PatternGrammar
