import PatternGrammar.Regex.Error
import PatternGrammar.Regex.Expr
import PatternGrammar.Regex.Pattern
import PatternGrammar.Unicode.Folding
import PatternGrammar.Unicode.Word

/-!
# From expressions to patterns

Flags are applied from left to right. A directive changes them up to the end of the group that it
stands in, across the alternatives of that group; a group restores them. Without the `unicode`
flag the short classes are ASCII, and what could match part of a character is refused.
-/

namespace PatternGrammar.Regex

/-- Which flags are set. Whether blanks have a meaning matters to reading only. -/
structure Flags where
  caseless : Bool := false
  multiline : Bool := false
  dotAll : Bool := false
  swapGreed : Bool := false
  unicode : Bool := true
  crlf : Bool := false
deriving DecidableEq, Repr

namespace Flags

/-- Sets one flag. -/
def set (f : Flags) (flag : Flag) (value : Bool) : Flags :=
  match flag with
  | .caseless => { f with caseless := value }
  | .multiline => { f with multiline := value }
  | .dotAll => { f with dotAll := value }
  | .swapGreed => { f with swapGreed := value }
  | .unicode => { f with unicode := value }
  | .crlf => { f with crlf := value }
  | .extended => f

/-- Applies a row of changes. -/
def apply (f : Flags) (changes : List (Flag × Bool)) : Flags :=
  changes.foldl (fun f change => f.set change.1 change.2) f

end Flags

/-- The characters that the ASCII classes hold, as ranges. -/
def AsciiClass.ranges : AsciiClass → List (Nat × Nat)
  | .alnum => [(48, 57), (65, 90), (97, 122)]
  | .alpha => [(65, 90), (97, 122)]
  | .ascii => [(0, 127)]
  | .blank => [(9, 9), (32, 32)]
  | .cntrl => [(0, 31), (127, 127)]
  | .digit => [(48, 57)]
  | .graph => [(33, 126)]
  | .lower => [(97, 122)]
  | .print => [(32, 126)]
  | .punct => [(33, 47), (58, 64), (91, 96), (123, 126)]
  | .space => [(9, 13), (32, 32)]
  | .upper => [(65, 90)]
  | .word => [(48, 57), (65, 90), (95, 95), (97, 122)]
  | .xdigit => [(48, 57), (65, 70), (97, 102)]

/-- The characters of a short class. -/
def ShortClass.set (unicode : Bool) : ShortClass → CharSet
  | .digit => if unicode then Unicode.digit else ⟨[(48, 57)]⟩
  | .space => if unicode then Unicode.space else ⟨[(9, 13), (32, 32)]⟩
  | .word => if unicode then Unicode.word else Unicode.asciiWord

/-- A set as it counts where the `unicode` flag may be off: it must hold whole characters. -/
def wholeCharacters (unicode : Bool) (s : CharSet) : Except Error CharSet :=
  if unicode || s.isAscii then .ok s else .error .matchesPartOfCharacter

/-- The set with the other case of its members, where case makes no difference. -/
def fold (f : Flags) (s : CharSet) : CharSet :=
  if f.caseless then (if f.unicode then Unicode.foldCase s else Unicode.foldAsciiCase s) else s

/-- Folds a set and then complements it if it is negated. -/
def foldAndNegate (f : Flags) (negated : Bool) (s : CharSet) : Except Error CharSet :=
  wholeCharacters f.unicode ((fold f s).negateIf negated)

/-- The characters of a short class, which case does not change. -/
def shortSet (f : Flags) (k : ShortClass) (negated : Bool) : Except Error CharSet :=
  wholeCharacters f.unicode ((k.set f.unicode).negateIf negated)

/-- The characters that a property asks for. -/
def propertySet (f : Flags) (q : Unicode.PropertyQuery) (negated : Bool) : Except Error CharSet :=
  if f.unicode then
    match Unicode.find? q with
    | some s => foldAndNegate f negated s
    | none => .error .unknownProperty
  else .error .unicodeRequired

/-- The set that an operation makes of two sets. -/
def SetOp.apply : SetOp → CharSet → CharSet → CharSet
  | .intersection => CharSet.inter
  | .difference => CharSet.diff
  | .symmetricDifference => CharSet.symmDiff

/-- The characters of a class. -/
def ClassExpr.resolve (f : Flags) : ClassExpr → Except Error CharSet
  | .empty => .ok CharSet.empty
  | .literal c =>
    if f.unicode || c.toNat < 0x80 then .ok (CharSet.singleton c) else .error .unicodeRequired
  | .range lo hi =>
    if f.unicode || hi.toNat < 0x80 then .ok (CharSet.interval lo hi) else .error .unicodeRequired
  | .short k negated => shortSet f k negated
  | .property q negated => propertySet f q negated
  | .ascii k negated => foldAndNegate f negated ⟨k.ranges⟩
  | .bracketed negated body => do foldAndNegate f negated (← body.resolve f)
  | .union first rest => do
    let s ← first.resolve f
    return (← rest.resolve f).union s
  | .combine op left right => do
    return op.apply (fold f (← left.resolve f)) (fold f (← right.resolve f))

/-- Whether case makes no difference to a character and it has another case. -/
def Flags.folds (f : Flags) (c : Char) : Bool :=
  f.caseless && (if f.unicode then Unicode.hasOtherCase c else c.isAlpha)

/-- The pattern of one character. -/
def literalPattern (f : Flags) (c : Char) (byteEscape : Bool) : Except Error Pattern :=
  if !f.unicode && byteEscape && 0x80 ≤ c.toNat then .error .matchesPartOfCharacter
  else if f.folds c then .ok (Pattern.ofSet (fold f (CharSet.singleton c)) (!f.unicode))
  else .ok (.literal [c])

/-- The pattern of a set that was written under the given flags. -/
def setPattern (f : Flags) (s : CharSet) : Pattern :=
  Pattern.ofSet s (!f.unicode)

/-- The characters that a dot matches. -/
def dotSet (f : Flags) : Except Error CharSet :=
  if !f.unicode then .error .matchesPartOfCharacter
  else if f.dotAll then .ok CharSet.all
  else if f.crlf then .ok (CharSet.complement ⟨[(10, 10), (13, 13)]⟩)
  else .ok (CharSet.complement ⟨[(10, 10)]⟩)

/-- The test that an assertion makes. -/
def Assertion.look (f : Flags) : Assertion → Look
  | .caret => if f.multiline then .lineStart f.crlf else .start
  | .dollar => if f.multiline then .lineStop f.crlf else .stop
  | .textStart => .start
  | .textEnd => .stop
  | .wordBoundary => .wordBoundary (!f.unicode)
  | .notWordBoundary => .notWordBoundary (!f.unicode)
  | .wordStart => .wordStart (!f.unicode)
  | .wordEnd => .wordStop (!f.unicode)
  | .wordStartHalf => .wordStartHalf (!f.unicode)
  | .wordEndHalf => .wordStopHalf (!f.unicode)

namespace Expr

/-- The branches of an expression under the given flags, and the flags after it. An expression
without alternatives is one branch. -/
def branches (f : Flags) : Expr → Except Error (List Pattern × Flags)
  | .empty => .ok ([.empty], f)
  | .directive changes => .ok ([.empty], f.apply changes)
  | .literal c byteEscape => do return ([← literalPattern f c byteEscape], f)
  | .dot => do return ([setPattern f (← dotSet f)], f)
  | .assertion a => .ok ([.look (a.look f)], f)
  | .short k negated => do return ([setPattern f (← shortSet f k negated)], f)
  | .property q negated => do return ([setPattern f (← propertySet f q negated)], f)
  | .bracketed c => do return ([setPattern f (← c.resolve f)], f)
  | .group (.capture index _) body => do
    let (ps, _) ← branches f body
    return ([.capture index (Pattern.choose ps)], f)
  | .group (.plain changes) body => do
    let (ps, _) ← branches (f.apply changes) body
    return ([Pattern.choose ps], f)
  | .repeated body min max greedy => do
    let (ps, f) ← branches f body
    return ([(Pattern.choose ps).times min max (greedy != f.swapGreed)], f)
  | .concat first rest => do
    let (ps, f) ← branches f first
    let (qs, f) ← branches f rest
    return ([(Pattern.choose ps).join (Pattern.choose qs)], f)
  | .alternate first rest => do
    let (ps, f) ← branches f first
    let (qs, f) ← branches f rest
    return (ps ++ qs, f)

/-- The pattern of an expression. -/
def resolve (e : Expr) : Except Error Pattern := do
  let (ps, _) ← branches {} e
  return Pattern.choose ps

/-- The named groups of an expression with their numbers. -/
def groupNames : Expr → List (String × Nat)
  | .group (.capture index (some name)) body => (name, index) :: groupNames body
  | .group _ body => groupNames body
  | .repeated body _ _ _ => groupNames body
  | .concat first rest => groupNames first ++ groupNames rest
  | .alternate first rest => groupNames first ++ groupNames rest
  | _ => []

end Expr

end PatternGrammar.Regex
