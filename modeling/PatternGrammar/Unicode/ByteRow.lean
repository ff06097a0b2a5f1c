import PatternGrammar.Unicode.CharSet

/-!
# Rows of bytes

In UTF-8 a character is written with one to four bytes. A set of characters is cut into ranges such
that the written forms of the characters of a range are all combinations of a range for each byte;
`byteRows` lists these rows of byte ranges.
-/

namespace PatternGrammar.Unicode

/-- The bytes that write a code point. -/
def bytesOf (n : Nat) : List Nat :=
  if n < 0x80 then [n]
  else if n < 0x800 then [0xC0 + n / 64, 0x80 + n % 64]
  else if n < 0x10000 then [0xE0 + n / 4096, 0x80 + n / 64 % 64, 0x80 + n % 64]
  else [0xF0 + n / 262144, 0x80 + n / 4096 % 64, 0x80 + n / 64 % 64, 0x80 + n % 64]

/-- A range cut in front of a code point, if that lies inside. -/
def cutAt (n : Nat) (r : Nat × Nat) : List (Nat × Nat) :=
  if r.1 < n && n ≤ r.2 then [(r.1, n - 1), (n, r.2)] else [r]

/-- A range that lies in several blocks of the given size, cut at the first and at the last border
between two of them. -/
def cutAtBlocks (size : Nat) (r : Nat × Nat) : List (Nat × Nat) :=
  if r.1 / size = r.2 / size then [r]
  else (cutAt ((r.1 + size - 1) / size * size) r).flatMap (cutAt ((r.2 + 1) / size * size))

/-- The parts of a range below and above the surrogates. -/
def withoutSurrogates (r : Nat × Nat) : List (Nat × Nat) :=
  if r.1 < 0xD800 && 0xDFFF < r.2 then [(r.1, 0xD7FF), (0xE000, r.2)] else [r]

/-- A range of characters cut such that each piece is written by a row of byte ranges. -/
def cutForBytes (r : Nat × Nat) : List (Nat × Nat) :=
  let sameWidth := (((withoutSurrogates r).flatMap (cutAt 0x80)).flatMap (cutAt 0x800)).flatMap
    (cutAt 0x10000)
  sameWidth.flatMap fun r =>
    if r.2 < 0x80 then [r]
    else ((cutAtBlocks 64 r).flatMap (cutAtBlocks 4096)).flatMap (cutAtBlocks 262144)

/-- The rows of byte ranges that write the characters of a set. -/
def byteRows (s : CharSet) : List (List (Nat × Nat)) :=
  (s.ranges.flatMap cutForBytes).map fun r => (bytesOf r.1).zip (bytesOf r.2)

end PatternGrammar.Unicode
