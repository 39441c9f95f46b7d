import ServerLogin.Text.Digit
import ServerLogin.Url.Fault

/-!
IPv4 addresses as hosts spell them.  A part is decimal, octal after a leading
`0`, or hexadecimal after `0x`; up to four parts are written, and the last one
fills all the bytes that remain.
-/

namespace ServerLogin.Url

open ServerLogin.Text

def dotted (cs : List Char) : List (List Char) := cs.splitOnP (· == '.')

/-- A run of digits in a base; the empty run is zero. -/
private def digitsIn? (base : Nat) (cs : List Char) : Option Nat :=
  if cs.all (isDigitIn base) then some (ofDigits base cs) else none

/-- One part of an address. -/
def ipv4Part? : List Char → Option Nat
  | [] => none
  | ['0'] => some 0
  | '0' :: 'x' :: digits => digitsIn? 16 digits
  | '0' :: 'X' :: digits => digitsIn? 16 digits
  | '0' :: digits => digitsIn? 8 digits
  | digits => digitsIn? 10 digits

/-- The parts of a host name, without the empty one behind a final point. -/
private def addressParts (cs : List Char) : List (List Char) :=
  match (dotted cs).reverse with
  | [] :: more => more.reverse
  | parts => parts.reverse

/-- Whether the last part of a host name is a number, so that the whole name has
to be an address. -/
def endsInNumber (cs : List Char) : Bool :=
  match (addressParts cs).getLast? with
  | none => false
  | some part => (!part.isEmpty && part.all Char.isDigit) || (ipv4Part? part).isSome

/-- The number behind the parts of an address, of which `room` bytes are still
open.  Every part but the last is one byte. -/
private def ipv4Value? : Nat → List Nat → Option Nat
  | _, [] => none
  | room, [n] => if n < Nat.pow 256 room then some n else none
  | 0, _ :: _ :: _ => none
  | room + 1, n :: more =>
    if n < 256 then (ipv4Value? room more).map (n * Nat.pow 256 room + ·) else none

def ipv4? (cs : List Char) : Except UrlFault Nat :=
  match (addressParts cs).mapM ipv4Part? with
  | none => .error .badIpv4
  | some parts =>
    match if parts.length ≤ 4 then ipv4Value? 4 parts else none with
    | some n => .ok n
    | none => .error .badIpv4

/-- The four bytes of an address in decimal, joined by points. -/
def ipv4Text (n : Nat) : List Char :=
  decimal (n / 16777216 % 256) ++ '.' :: decimal (n / 65536 % 256) ++
    '.' :: decimal (n / 256 % 256) ++ '.' :: decimal (n % 256)

end ServerLogin.Url
