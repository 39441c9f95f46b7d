import ServerLogin.Number.Integer
import ServerLogin.Number.Shortest

/-!
Numbers of 32 bits.  A `Single` is not a number, an infinity, or a finite number
given by its sign and its code.  Reading rounds to nearest; the three layouts
write the shortest digits that read back and differ only in where they place
the point.
-/

namespace ServerLogin.Number

open ServerLogin.Text

/-- A floating-point number of 32 bits. -/
inductive Single
  | nan
  | infinity (negative : Bool)
  | finite (negative : Bool) (code : Fin single.size)
deriving DecidableEq

namespace Single

/-- Round `coefficient * 10 ^ exponent`; beyond the largest number is infinity. -/
def ofDecimal (negative : Bool) (coefficient : Nat) (exponent : Int) : Single :=
  match single.ofDecimal? coefficient exponent with
  | some code => if h : code < single.size then .finite negative ⟨code, h⟩ else .infinity negative
  | none => .infinity negative

def eightyFivePercent : Single := .finite false ⟨0x3F59999A, by decide⟩

/-- Whether two numbers compare equal: a NaN equals nothing and the two zeros
equal each other. -/
def equals : Single → Single → Bool
  | .nan, _ => false
  | _, .nan => false
  | .infinity s, .infinity t => s == t
  | .finite s a, .finite t b => a == b && (s == t || a.val == 0)
  | _, _ => false

def isFinite : Single → Bool
  | .finite _ _ => true
  | _ => false

/-- Whether a number lies between zero and one, both included.  The code of one
is `0x3F800000`. -/
def inUnitInterval : Single → Bool
  | .finite negative code => code.val = 0 || (!negative && code.val ≤ 0x3F800000)
  | _ => false

end Single

/-- The number a text spells in positional or scientific form, before rounding:
digits with at most one point, then an optional power of ten. -/
def scientific? (cs : List Char) : Option Decimal :=
  let whole := cs.takeWhile Char.isDigit
  let rest := cs.dropWhile Char.isDigit
  let (fraction, rest) := match rest with
    | '.' :: more => (more.takeWhile Char.isDigit, more.dropWhile Char.isDigit)
    | _ => ([], rest)
  if whole.isEmpty && fraction.isEmpty then none else
  let exponent? : Option Int := match rest with
    | [] => some 0
    | e :: more =>
      if e = 'e' ∨ e = 'E' then
        match more with
        | '-' :: digits => (natural? digits).map fun n => -(n : Int)
        | '+' :: digits => (natural? digits).map fun n => (n : Int)
        | digits => (natural? digits).map fun n => (n : Int)
      else none
  exponent?.map fun e => ⟨Nat.ofDigitChars 10 (whole ++ fraction) 0, e - fraction.length⟩

namespace Single

/-- Read an unsigned number: digits, or one of the names for infinity and NaN
in any case. -/
def magnitude? (negative : Bool) (cs : List Char) : Option Single :=
  match scientific? cs with
  | some d => some (ofDecimal negative d.digits d.exponent)
  | none =>
    if sameIgnoringCase cs "nan".toList then some .nan
    else if sameIgnoringCase cs "inf".toList || sameIgnoringCase cs "infinity".toList then
      some (.infinity negative)
    else none

/-- Read a number with an optional sign. -/
def read? (s : String) : Option Single :=
  match s.toList with
  | '-' :: cs => magnitude? true cs
  | '+' :: cs => magnitude? false cs
  | cs => magnitude? false cs

/-- How a number is laid out. -/
structure Layout where
  /-- Whether a number whose first digit has this decimal exponent is written
  without a power of ten. -/
  positional : Int → Bool
  /-- Whether a whole number in positional form ends in `.0`. -/
  wholePoint : Bool
  /-- Which of two equally near shortest decimals is written. -/
  tie : Tie
  nan : String
  infinity : String

/-- Always positional. -/
def Layout.plain : Layout := ⟨fun _ => true, false, .up, "NaN", "inf"⟩

/-- Positional from 0.0001 up to, but not including, ten to the sixteenth. -/
def Layout.debug : Layout := ⟨fun e => -4 ≤ e && e < 16, true, .up, "NaN", "inf"⟩

/-- Positional from 0.000001 up to, but not including, ten to the thirteenth. -/
def Layout.document : Layout := ⟨fun e => -6 ≤ e && e < 13, true, .even, ".nan", ".inf"⟩

/-- Digits with a decimal point `point` places after the first digit starts. -/
def positionalDigits (digits : List Char) (point : Int) (wholePoint : Bool) : List Char :=
  if point ≤ 0 then '0' :: '.' :: List.replicate (-point).toNat '0' ++ digits
  else
    let whole := digits.take point.toNat
    let fraction := digits.drop point.toNat
    let padded := whole ++ List.replicate (point.toNat - whole.length) '0'
    if fraction.isEmpty then (if wholePoint then padded ++ ['.', '0'] else padded)
    else padded ++ '.' :: fraction

/-- Digits in scientific form: one before the point, then the power of ten. -/
def scientificDigits (digits : List Char) (exponent : Int) : List Char :=
  let mantissa := match digits with
    | [] => []
    | [d] => [d]
    | d :: more => d :: '.' :: more
  mantissa ++ 'e' :: (integerText exponent).toList

/-- The text of a number that is not negative. -/
def magnitudeText (layout : Layout) (code : Nat) : List Char :=
  if code = 0 then (if layout.wholePoint then ['0', '.', '0'] else ['0']) else
  let d := shortest layout.tie code
  let digits := decimal d.digits
  let point : Int := digits.length + d.exponent
  if layout.positional (point - 1) then positionalDigits digits point layout.wholePoint
  else scientificDigits digits (point - 1)

def text (layout : Layout) : Single → String
  | .nan => layout.nan
  | .infinity negative => if negative then "-" ++ layout.infinity else layout.infinity
  | .finite negative code =>
    let body := magnitudeText layout code.val
    String.ofList (if negative then '-' :: body else body)

end Single

end ServerLogin.Number
