import ServerLogin.Number.Single
import ServerLogin.Yaml.Document

/-!
What scalars stand for.  Any scalar is a text.  Null, truth values and numbers
are written plainly; a number is decimal without leading zeros, or hexadecimal,
octal or binary after `0x`, `0o` or `0b`.
-/

namespace ServerLogin.Yaml

open ServerLogin.Text ServerLogin.Number

def isNull (text : String) : Bool := ["null", "Null", "NULL", "~"].contains text

def bool? (text : String) : Option Bool :=
  if ["true", "True", "TRUE"].contains text then some true
  else if ["false", "False", "FALSE"].contains text then some false
  else none

/-- Drop one leading sign. -/
def unsigned : List Char → List Char
  | '+' :: rest => rest
  | '-' :: rest => rest
  | cs => cs

/-- Whether a text is all digits, but is no number because of a leading zero. -/
def isPaddedNumber (text : String) : Bool :=
  match unsigned text.toList with
  | '0' :: d :: rest => (d :: rest).all Char.isDigit
  | _ => false

/-- Digits in a base, at least one. -/
def digitsIn? (base : Nat) (cs : List Char) : Option Nat :=
  if cs.isEmpty || !cs.all (isDigitIn base) then none else some (ofDigits base cs)

/-- A number after the mark of its base. -/
def based? : List Char → Option Nat
  | '0' :: 'x' :: digits => digitsIn? 16 digits
  | '0' :: 'o' :: digits => digitsIn? 8 digits
  | '0' :: 'b' :: digits => digitsIn? 2 digits
  | _ => none

/-- The size of a whole number, from what stands behind its sign. -/
def magnitude? (text : String) (cs : List Char) : Option Nat :=
  match based? cs with
  | some n => some n
  | none => if isPaddedNumber text then none else digitsIn? 10 cs

/-- A whole number: its sign and its size.  A plus sign is not followed by another
sign. -/
def integer? (text : String) : Option Int :=
  match text.toList with
  | '+' :: rest => (magnitude? text rest).map fun n : Nat => (n : Int)
  | '-' :: rest => (magnitude? text rest).map fun n : Nat => -(n : Int)
  | cs => (magnitude? text cs).map fun n : Nat => (n : Int)

/-- A whole number below `limit`, written without a minus sign. -/
def natural? (limit : Nat) (text : String) : Option Nat :=
  if text.toList.head? == some '-' then none
  else ((integer? text).map Int.toNat).filter (· < limit)

/-- A decimal or scientific number, before rounding: its sign and its digits. -/
private def finite? (cs : List Char) : Option (Bool × Decimal) :=
  match cs with
  | '-' :: rest => (scientific? rest).map fun d => (true, d)
  | '+' :: rest => (scientific? rest).map fun d => (false, d)
  | cs => (scientific? cs).map fun d => (false, d)

/-- A number of 64 bits that is finite: its sign and its code. -/
private def double? (cs : List Char) : Option (Bool × Nat) :=
  (finite? cs).bind fun (negative, d) =>
    (double.ofDecimal? d.digits d.exponent).map fun code => (negative, code)

/-- The text behind a plus sign, which no other sign may follow. -/
private def afterPlus? : List Char → Option (List Char)
  | '+' :: '+' :: _ => none
  | '+' :: '-' :: _ => none
  | '+' :: rest => some rest
  | cs => some cs

private def infinities : List String := [".inf", ".Inf", ".INF"]

private def nans : List String := [".nan", ".NaN", ".NAN"]

/-- A floating-point number.  It is read with 64 bits and then rounded to 32. -/
def number? (text : String) : Option Single :=
  match afterPlus? text.toList with
  | none => none
  | some cs =>
    if infinities.contains (String.ofList cs) then some (.infinity false)
    else if (infinities.map ("-" ++ ·)).contains text then some (.infinity true)
    else if nans.contains text then some .nan
    else (double? cs).map fun (negative, code) =>
      match double.convert? single code with
      | some code =>
        if h : code < single.size then .finite negative ⟨code, h⟩ else .infinity negative
      | none => .infinity negative

namespace Value

/-- Whether a scalar may be read as something else than text: it is plain, or it
is literal and its tag says what it is. -/
def isPlain (s : Scalar) (tag : String) : Bool :=
  s.style == .plain || (s.style == .literal && s.tag == some tag)

def text? : Value → Option String
  | .scalar s => some s.text
  | .collection => none

def bool? : Value → Option Bool
  | .scalar s => if isPlain s "tag:yaml.org,2002:bool" then Yaml.bool? s.text else none
  | .collection => none

def natural? (limit : Nat) : Value → Option Nat
  | .scalar s => if isPlain s "tag:yaml.org,2002:int" then Yaml.natural? limit s.text else none
  | .collection => none

def int64? : Value → Option Int64
  | .scalar s =>
    if isPlain s "tag:yaml.org,2002:int" then (Yaml.integer? s.text).bind int64OfInt? else none
  | .collection => none

def number? : Value → Option Single
  | .scalar s => if isPlain s "tag:yaml.org,2002:float" then Yaml.number? s.text else none
  | .collection => none

/-- Read a value that may be null.  A scalar tagged as null has to be a word for
null; one with another tag is not null. -/
def optional? {α : Type} (read : Value → Option α) (v : Value) : Option (Option α) :=
  match v with
  | .collection => (read v).map some
  | .scalar s =>
    if s.style != .plain then (read v).map some
    else match s.tag with
      | some tag =>
        if tag == "tag:yaml.org,2002:null" then (if isNull s.text then some none else none)
        else (read v).map some
      | none => if s.text.isEmpty || isNull s.text then some none else (read v).map some

end Value

end ServerLogin.Yaml
