/-!
Binary floating point in exact arithmetic.  The finite non-negative numbers of
a format are counted upwards from zero; the index of a number in that count is
its `code`, so the order of the numbers is the order of their codes.  `decode`
gives the number behind a code and `round` the code nearest to a fraction.
-/

namespace ServerLogin.Number

def twoTo (k : Nat) : Nat := Nat.pow 2 k

def tenTo (k : Nat) : Nat := Nat.pow 10 k

/-- A binary floating-point format. -/
structure BinaryFormat where
  /-- Bits of a significand. -/
  precision : Nat
  /-- Exponent of the smallest positive number. -/
  leastExponent : Int
  /-- How many finite numbers are not negative. -/
  size : Nat

/-- The format of 32 bits. -/
def single : BinaryFormat := ⟨24, -149, 0x7F800000⟩

/-- The format of 64 bits. -/
def double : BinaryFormat := ⟨53, -1074, 0x7FF0000000000000⟩

namespace BinaryFormat

/-- The number with a given code, as a significand `m` and an exponent `q`: its
value is `m * 2 ^ q`. -/
def decode (f : BinaryFormat) (code : Nat) : Nat × Int :=
  let half := twoTo (f.precision - 1)
  if code < half then (code, f.leastExponent)
  else (half + code % half, f.leastExponent + (code / half : Nat) - 1)

/-- A fraction times a power of two, as a fraction. -/
def scale (num den : Nat) (q : Int) : Nat × Nat :=
  if 0 ≤ q then (num * twoTo q.toNat, den) else (num, den * twoTo (-q).toNat)

/-- The whole number nearest to a fraction; a half goes to the even neighbour. -/
def nearest (num den : Nat) : Nat :=
  let whole := num / den
  let rest := num % den
  if 2 * rest < den then whole
  else if den < 2 * rest then whole + 1
  else whole + whole % 2

/-- The code of the number nearest to the fraction `num / den`, a tie going to
the even code; none when that lies beyond the largest finite number. -/
def round? (f : BinaryFormat) (num den : Nat) : Option Nat :=
  if num = 0 then some 0 else
  let guess : Int := (Nat.log2 num : Int) - Nat.log2 den - f.precision
  let low := max guess f.leastExponent
  let (n, d) := scale num den (-low)
  let q := if n / d < twoTo f.precision then low else low + 1
  let (n, d) := scale num den (-q)
  let code := (q - f.leastExponent).toNat * twoTo (f.precision - 1) + nearest n d
  if code < f.size then some code else none

/-- The code nearest to `coefficient * 10 ^ exponent`.  A coefficient of `k`
digits with an exponent beyond four hundred on either side of `-k` is out of
reach of both formats, so the power is only taken within that range. -/
def ofDecimal? (f : BinaryFormat) (coefficient : Nat) (exponent : Int) : Option Nat :=
  if coefficient = 0 then some 0 else
  let magnitude : Int := (Nat.toDigits 10 coefficient).length + exponent
  if magnitude < -400 then some 0
  else if 400 < magnitude then none
  else if 0 ≤ exponent then f.round? (coefficient * tenTo exponent.toNat) 1
  else f.round? coefficient (tenTo (-exponent).toNat)

/-- The code nearest to a number of another format. -/
def convert? (source target : BinaryFormat) (code : Nat) : Option Nat :=
  let (m, q) := source.decode code
  let (n, d) := scale m 1 q
  target.round? n d

end BinaryFormat

end ServerLogin.Number
