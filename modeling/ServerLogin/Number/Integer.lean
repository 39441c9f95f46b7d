import ServerLogin.Text.Digit

/-!
Whole numbers of a fixed width, as people write them: an optional sign and at
least one decimal digit.  A number out of range is refused like any other text
that spells no number.
-/

namespace ServerLogin.Number

open ServerLogin.Text

/-- A non-empty run of decimal digits. -/
def natural? (cs : List Char) : Option Nat :=
  if cs.isEmpty || !cs.all Char.isDigit then none else some (Nat.ofDigitChars 10 cs 0)

/-- A number below `limit`, with an optional plus sign. -/
def unsigned? (limit : Nat) (cs : List Char) : Option Nat :=
  (natural? (match cs with
    | '+' :: digits => digits
    | digits => digits)).filter (· < limit)

/-- A number of 64 bits with a sign, from its value. -/
def int64OfInt? (n : Int) : Option Int64 :=
  if -9223372036854775808 ≤ n ∧ n < 9223372036854775808 then some (Int64.ofInt n) else none

/-- A number of 64 bits, with an optional sign. -/
def int64? (cs : List Char) : Option Int64 :=
  match cs with
  | '-' :: digits => (natural? digits).bind fun n => int64OfInt? (-(n : Int))
  | '+' :: digits => (natural? digits).bind fun n => int64OfInt? n
  | digits => (natural? digits).bind fun n => int64OfInt? n

def uint16? (cs : List Char) : Option UInt16 := (unsigned? 65536 cs).map UInt16.ofNat

def integerText (n : Int) : String :=
  String.ofList (if n < 0 then '-' :: decimal n.natAbs else decimal n.natAbs)

def naturalText (n : Nat) : String := String.ofList (decimal n)

theorem natural?_decimal (n : Nat) : natural? (decimal n) = some n := by
  have hall : (decimal n).all Char.isDigit = true :=
    List.all_eq_true.mpr fun _ h => Nat.isDigit_of_mem_toDigits (by decide) (by decide) h
  have hne : (decimal n).isEmpty = false :=
    List.isEmpty_eq_false_iff.mpr Nat.toDigits_ne_nil
  have hread : Nat.ofDigitChars 10 (decimal n) 0 = n :=
    Nat.ofDigitChars_toDigits (by decide) (by decide)
  rw [natural?, hall, hne, hread]
  rfl

end ServerLogin.Number
