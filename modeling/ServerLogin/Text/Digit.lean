/-!
Digits of a positional number.  `digitValue` reads one digit, `ofDigits`
a run of them; letters stand for ten and above, in either case.
-/

namespace ServerLogin.Text

/-- The value of a digit, letters counting on from ten in either case. -/
def digitValue (c : Char) : Option Nat :=
  if '0' ≤ c ∧ c ≤ '9' then some (c.toNat - '0'.toNat)
  else if 'a' ≤ c ∧ c ≤ 'z' then some (c.toNat - 'a'.toNat + 10)
  else if 'A' ≤ c ∧ c ≤ 'Z' then some (c.toNat - 'A'.toNat + 10)
  else none

def isDigitIn (base : Nat) (c : Char) : Bool :=
  match digitValue c with
  | some d => d < base
  | none => false

def isHex (c : Char) : Bool := isDigitIn 16 c

/-- The number a run of digits spells, most significant digit first.  A
character that is no digit counts as zero, so callers check the run first. -/
def ofDigits (base : Nat) (cs : List Char) : Nat :=
  cs.foldl (fun n c => base * n + (digitValue c).getD 0) 0

/-- The decimal digits of a number, most significant first. -/
def decimal (n : Nat) : List Char := Nat.toDigits 10 n

/-- The lower-case hexadecimal digits of a number, most significant first. -/
def hexadecimal (n : Nat) : List Char := Nat.toDigits 16 n

def upperAscii (c : Char) : Char := if 'a' ≤ c ∧ c ≤ 'z' then c.toUpper else c

def lowerAscii (c : Char) : Char := if 'A' ≤ c ∧ c ≤ 'Z' then c.toLower else c

/-- Whether two texts agree up to the case of ASCII letters. -/
def sameIgnoringCase (a b : List Char) : Bool := a.map lowerAscii == b.map lowerAscii

def hexByte (b : Nat) : List Char :=
  [b / 16 % 16, b % 16].map fun d => upperAscii (Nat.digitChar d)

end ServerLogin.Text
