import PatternGrammar.Unicode.CharSet
import PatternGrammar.Unicode.Age
import PatternGrammar.Unicode.Binary
import PatternGrammar.Unicode.Break
import PatternGrammar.Unicode.Category
import PatternGrammar.Unicode.Script
import PatternGrammar.Unicode.ScriptExtension

/-!
# Looking up properties of characters

A property is asked for by one name, of a binary property, a general category or a script, or by
the name of a property and one of its values. Names are compared loosely: case, spaces, hyphens,
underscores and a leading "is" make no difference.
-/

namespace PatternGrammar.Unicode

/-- What a pattern says about the property it asks for. -/
inductive PropertyQuery where
  | named (name : String)
  | valued (name value : String)
deriving DecidableEq, Repr, Inhabited

/-- A name without the characters that make no difference, in lower case. A lone "c" after a
leading "is" stays "isc", which is no name of a category. -/
def looseName (name : String) : String :=
  let keep (cs : List Char) : List Char :=
    (cs.filter fun c => c.toNat < 0x80 && c != ' ' && c != '_' && c != '-').map Char.toLower
  match name.toList with
  | i :: s :: rest =>
    if i.toLower == 'i' && s.toLower == 's' then
      match keep rest with
      | ['c'] => "isc"
      | cs => String.ofList cs
    else String.ofList (keep (i :: s :: rest))
  | cs => String.ofList (keep cs)

/-- The categories that are unions of others: the names of the union and of its parts. -/
def categoryUnions : List (List String × List String) :=
  [
    (["l", "letter"], ["lu", "ll", "lt", "lm", "lo"]),
    (["lc", "casedletter"], ["lu", "ll", "lt"]),
    (["m", "mark", "combiningmark"], ["mn", "mc", "me"]),
    (["n", "number"], ["nd", "nl", "no"]),
    (["p", "punctuation", "punct"], ["pc", "pd", "ps", "pe", "pi", "pf", "po"]),
    (["s", "symbol"], ["sm", "sc", "sk", "so"]),
    (["z", "separator"], ["zs", "zl", "zp"])
  ]

/-- The characters of one of the listed categories. -/
def leafCategory (name : String) : CharSet :=
  ⟨(lookUp categories name).getD []⟩

/-- The surrogates, as a range. They stand for no character, but the code points on both sides of
them are of the category for all others, whose ranges span them. -/
def surrogates : CharSet := ⟨[(0xD800, 0xDFFF)]⟩

/-- The union of categories. -/
def unionOf (names : List String) : CharSet :=
  names.foldl (fun acc name => acc.union (leafCategory name)) CharSet.empty

/-- The characters of a general category, by its loose name. -/
def category? (name : String) : Option CharSet :=
  if name == "any" then some CharSet.all
  else if name == "ascii" then some ⟨[(0, 0x7F)]⟩
  else if name == "assigned" then some (leafCategory "cn").complement
  else if name == "c" || name == "other" then
    some ((unionOf ["cc", "cf", "co", "cn"]).union surrogates)
  else
    match lookUp categories name with
    | some ranges => some ⟨ranges⟩
    | none => (categoryUnions.find? fun u => u.1.contains name).map fun u => unionOf u.2

/-- The characters of a script, by its loose name. -/
def script? (name : String) : Option CharSet :=
  (lookUp scripts name).map CharSet.mk

/-- The characters used with a script, by its loose name. -/
def scriptExtension? (name : String) : Option CharSet :=
  match lookUp scriptExtensions name with
  | some ranges => some ⟨ranges⟩
  | none => script? name

/-- The characters with a binary property, by its loose name. -/
def binary? (name : String) : Option CharSet :=
  (lookUp binaryProperties name).map CharSet.mk

/-- The characters that were assigned in the named version of the standard or before it. -/
def age? (name : String) : Option CharSet :=
  match ages.span fun t => !t.names.contains name with
  | (_, []) => none
  | (earlier, asked :: _) =>
    some (CharSet.ofRanges ((earlier ++ [asked]).flatMap fun t => readSteps t.steps))

/-- The characters with a value of a property, by the loose names of both. -/
def valued? (name value : String) : Option CharSet :=
  if name == "gc" || name == "generalcategory" then category? value
  else if name == "sc" || name == "script" then script? value
  else if name == "scx" || name == "scriptextensions" then scriptExtension? value
  else if name == "age" then age? value
  else if name == "gcb" || name == "graphemeclusterbreak" then
    (lookUp graphemeBreaks value).map CharSet.mk
  else if name == "wb" || name == "wordbreak" then (lookUp wordBreaks value).map CharSet.mk
  else if name == "sb" || name == "sentencebreak" then (lookUp sentenceBreaks value).map CharSet.mk
  else none

/-- The characters that a query asks for. A single name is first a binary property, then a general
category, then a script; the names of two categories are also short names of properties and stand
for the categories. -/
def find? : PropertyQuery → Option CharSet
  | .named name =>
    let name := looseName name
    let asBinary := if name == "cf" || name == "sc" || name == "lc" then none else binary? name
    asBinary <|> category? name <|> script? name
  | .valued name value => valued? (looseName name) (looseName value)

/-- The decimal digits of all scripts. -/
def digit : CharSet := leafCategory "nd"

/-- The characters with the property White_Space. -/
def space : CharSet := (binary? "space").getD CharSet.empty

end PatternGrammar.Unicode
