import ServerLogin.Number.Binary

/-!
The fewest decimal digits that name a binary number.  All decimals within a
number's rounding interval read back as that number.  Going from coarse to fine
powers of ten, `shortest` stops at the first whose multiples meet the interval;
it is enough to look at the two multiples next to the number, and of two hits
the nearer one is taken.  Which of two equally near ones is taken is a choice
of the caller.
-/

namespace ServerLogin.Number

/-- `digits * 10 ^ exponent`. -/
structure Decimal where
  digits : Nat
  exponent : Int
deriving DecidableEq, Repr

/-- Which of two equally near decimals is taken. -/
inductive Tie
  | up
  | even
deriving DecidableEq, Repr

/-- A number and the ends of its rounding interval, over one denominator. -/
structure Interval where
  low : Nat
  value : Nat
  high : Nat
  den : Nat
  closed : Bool

/-- The interval of numbers that round to a code.  Its ends belong to it when
the significand is even. -/
def interval (f : BinaryFormat) (code : Nat) : Interval :=
  let (m, q) := f.decode code
  let below := if m = twoTo (f.precision - 1) ∧ f.leastExponent < q then 1 else 2
  let up := twoTo (q - 2).toNat
  ⟨(4 * m - below) * up, 4 * m * up, (4 * m + 2) * up, twoTo (2 - q).toNat, m % 2 = 0⟩

/-- The multiple of `10 ^ t` in the interval that is nearest to the number. -/
def Interval.hit? (tie : Tie) (i : Interval) (t : Int) : Option Decimal :=
  let up := tenTo (-t).toNat
  let unit := i.den * tenTo t.toNat
  let inside (k : Nat) : Bool :=
    k ≠ 0 && (if i.closed then i.low * up ≤ k * unit && k * unit ≤ i.high * up
      else i.low * up < k * unit && k * unit < i.high * up)
  let floor := i.value * up / unit
  match inside floor, inside (floor + 1) with
  | false, false => none
  | true, false => some ⟨floor, t⟩
  | false, true => some ⟨floor + 1, t⟩
  | true, true =>
    let below := i.value * up - floor * unit
    let above := (floor + 1) * unit - i.value * up
    let lower := below < above || (below == above && tie == .even && floor % 2 == 0)
    some ⟨if lower then floor else floor + 1, t⟩

/-- Try powers of ten downwards from `10 ^ t`. -/
def Interval.descend (tie : Tie) (i : Interval) : Nat → Int → Decimal
  | 0, t => ⟨0, t⟩
  | steps + 1, t =>
    match i.hit? tie t with
    | some d => d
    | none => i.descend tie steps (t - 1)

/-- The shortest decimal that reads back as the number with the given code.
Every number of 32 bits has one with an exponent between 39 and -60. -/
def shortest (tie : Tie) (code : Nat) : Decimal :=
  if code = 0 then ⟨0, 0⟩ else (interval single code).descend tie 100 39

end ServerLogin.Number
