
/-!
# JSON values

A JSON value with the fields of an object in the order in which they are written. Numbers without
fraction and exponent are integers; other numbers keep the text they were written with.
-/

namespace PatternGrammar

/-- A JSON value. -/
inductive Json where
  | null
  | bool (value : Bool)
  | int (value : Int)
  | decimal (text : String)
  | str (value : String)
  | arr (items : List Json)
  | obj (fields : List (String × Json))
deriving Repr, Inhabited

namespace Json

/-- A natural number as a JSON value. -/
def nat (n : Nat) : Json := int n

/-- The value of a field. Of two fields with one name the last one counts. -/
def field? (name : String) : Json → Option Json
  | obj fields => (fields.reverse.find? fun f => f.1 == name).map Prod.snd
  | _ => none

end Json

end PatternGrammar
