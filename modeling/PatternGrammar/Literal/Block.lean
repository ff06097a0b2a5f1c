
/-!
# Literal blocks

A literal is written between braces. Inside, a backslash takes the character after it along,
brackets enclose a class in which braces count as characters, and braces outside of a class nest.
`scanBlock` finds the brace that closes a block.
-/

namespace PatternGrammar.Literal

/-- Where a scan stands inside a block: after a backslash, inside a class, and how many inner braces
are open. -/
structure ScanState where
  escaped : Bool := false
  inClass : Bool := false
  depth : Nat := 0
deriving DecidableEq, Repr

/-- Scans to the brace that closes the block. The result is the text before it and the text after
it. -/
def scanTo (st : ScanState) : List Char → Option (List Char × List Char)
  | [] => none
  | c :: cs =>
    let goOn (st : ScanState) := (scanTo st cs).map fun (inner, rest) => (c :: inner, rest)
    if st.escaped then goOn { st with escaped := false }
    else if c = '\\' then goOn { st with escaped := true }
    else if c = '[' then goOn { st with inClass := true }
    else if c = ']' then goOn { st with inClass := false }
    else if c = '{' ∧ !st.inClass then goOn { st with depth := st.depth + 1 }
    else if c = '}' ∧ !st.inClass then
      if st.depth = 0 then some ([], cs) else goOn { st with depth := st.depth - 1 }
    else goOn st

/-- Scans a block at the start of a text. The result is the text between its braces and the text
after it. -/
def scanBlock : List Char → Option (List Char × List Char)
  | '{' :: cs => scanTo {} cs
  | _ => none

end PatternGrammar.Literal
