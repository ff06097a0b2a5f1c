
/-!
# Numbers in binary floating point

The numbers of 64 bits in binary floating point. `Double.ofDecimal` gives the one nearest to a
decimal; `Double.text` writes the fewest decimal digits from which the number is read back, without
exponent. All arithmetic is exact, on natural numbers.

Main definitions: `Double`, `Double.ofDecimal`, `Double.text`.
-/

namespace PatternGrammar

/-- A number `± mantissa · 2 ^ exponent` with a mantissa of at most 53 bits, an infinity, or what is
no number. -/
inductive Double where
  | finite (negative : Bool) (mantissa : Nat) (exponent : Int)
  | infinite (negative : Bool)
  | notANumber
deriving DecidableEq, Repr, Inhabited

namespace Double

/-- A quotient rounded to the nearest natural number, a half to the even neighbour. -/
def roundHalfEven (a b : Nat) : Nat :=
  let q := a / b
  let r := a % b
  if 2 * r < b || (2 * r == b && q % 2 == 0) then q else q + 1

/-- The quotient `a / b` times a power of `base`, as a quotient. -/
def scale (base : Nat) (e : Int) (a b : Nat) : Nat × Nat :=
  if 0 ≤ e then (a * base.pow e.toNat, b) else (a, b * base.pow (-e).toNat)

/-- The exponent of the largest power of two that is not above a positive quotient. -/
def log2 (a b : Nat) : Int :=
  let guess := (Nat.log2 a : Int) - Nat.log2 b
  let (x, y) := scale 2 (-guess) a b
  if y ≤ x then guess else guess - 1

/-- The least exponent. -/
def minExponent : Int := -1074

/-- The largest exponent of a full mantissa. -/
def maxExponent : Int := 971

/-- The number nearest to a positive quotient, of two the one with an even mantissa. -/
def ofQuotient (negative : Bool) (a b : Nat) : Double :=
  let e := max (log2 a b - 52) minExponent
  let (x, y) := scale 2 (-e) a b
  let m := roundHalfEven x y
  let (m, e) := if m = Nat.pow 2 53 then (Nat.pow 2 52, e + 1) else (m, e)
  if maxExponent < e then infinite negative else finite negative m e

/-- The number nearest to `digits · 10 ^ exponent`. Decimals that are far too large or too small to
have a number of their own are told by the count of their digits. -/
def ofDecimal (negative : Bool) (digits : Nat) (exponent : Int) : Double :=
  let size := (toString digits).length + exponent
  if digits = 0 || size < -330 then finite negative 0 0
  else if 310 < size then infinite negative
  else
    let (a, b) := scale 10 exponent digits 1
    ofQuotient negative a b

/-- The multiple of `10 ^ e` nearest to the positive number `m · 2 ^ q` among those that are read
back as it, if there is one: numbers less than half a step away, and just half a step if the
mantissa is even. The step below a power of two is half as large. -/
def onGrid? (m : Nat) (q e : Int) : Option Nat :=
  let (a, b) := scale 10 (-e) 1 1
  let (a, b) := scale 2 (q - 2) a b
  let low := (if m = Nat.pow 2 52 ∧ minExponent < q then 4 * m - 1 else 4 * m - 2) * a
  let high := (4 * m + 2) * a
  let isRead (n : Nat) : Bool :=
    if m % 2 = 0 then low ≤ n * b && n * b ≤ high else low < n * b && n * b < high
  let n := 4 * m * a / b
  match isRead n, isRead (n + 1) with
  | true, true => some (if 2 * (4 * m * a) < (2 * n + 1) * b then n else n + 1)
  | true, false => some n
  | false, true => some (n + 1)
  | false, false => none

/-- The fewest digits from which a positive number is read back, with their exponent. -/
def shortest (m : Nat) (q : Int) : Nat × Int :=
  let exponents : List Int := (List.range 655).map fun (i : Nat) => 309 - Int.ofNat i
  (exponents.findSome? fun e => (onGrid? m q e).map fun n => (n, e)).getD (0, 0)

/-- A number with `places` of its digits after the point, zeros at the end left out. -/
def fractionText (digits places : Nat) : String :=
  let whole := digits / Nat.pow 10 places
  let written := (toString (digits % Nat.pow 10 places)).toList
  let padded := List.replicate (places - written.length) '0' ++ written
  match (padded.reverse.dropWhile (· == '0')).reverse with
  | [] => toString whole
  | shown => toString whole ++ "." ++ String.ofList shown

/-- A number in positional notation. -/
def text : Double → String
  | finite negative m q =>
    let (digits, e) := if m = 0 then (0, 0) else shortest m q
    (if negative then "-" else "")
      ++ (if 0 ≤ e then toString (digits * Nat.pow 10 e.toNat) else fractionText digits (-e).toNat)
  | infinite negative => if negative then "-inf" else "inf"
  | notANumber => "NaN"

/-- The nearest natural number, a half rounded up, and at most `limit`. -/
def toNatUpTo (limit : Nat) : Double → Nat
  | finite negative m q =>
    let (a, b) := scale 2 q m 1
    if negative then 0 else min limit ((2 * a + b) / (2 * b))
  | infinite negative => if negative then 0 else limit
  | notANumber => 0

/-- Whether a number is zero. -/
def isZero : Double → Bool
  | finite _ m _ => m == 0
  | _ => false

end Double

end PatternGrammar
