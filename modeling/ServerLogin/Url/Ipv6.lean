import ServerLogin.Number.Integer
import ServerLogin.Url.Ipv4

/-!
IPv6 addresses.  An address has eight pieces of sixteen bits.  One run of zero
pieces may be left out as `::`, and the last two pieces may be written as an
IPv4 address.  The written form leaves out the first longest run of at least
two zero pieces.
-/

namespace ServerLogin.Url

open ServerLogin.Text

/-- The pieces read so far: those before `::`, and those after it once it has
been seen. -/
structure Pieces where
  front : List Nat
  back : Option (List Nat)

/-- How many pieces are taken, `::` standing for at least one. -/
def Pieces.size (p : Pieces) : Nat :=
  match p.back with
  | none => p.front.length
  | some back => p.front.length + 1 + back.length

def Pieces.push (p : Pieces) (n : Nat) : Pieces :=
  match p.back with
  | none => { p with front := p.front ++ [n] }
  | some back => { p with back := some (back ++ [n]) }

/-- The eight pieces, zeros filled in for `::`. -/
def Pieces.full? (p : Pieces) : Option (List Nat) :=
  match p.back with
  | none => if p.front.length = 8 then some p.front else none
  | some back =>
    if p.size ≤ 8 then
      some (p.front ++ List.replicate (8 - p.front.length - back.length) 0 ++ back)
    else none

/-- A byte in decimal without leading zeros. -/
def byte? (cs : List Char) : Option Nat :=
  match cs with
  | ['0'] => some 0
  | '0' :: _ => none
  | cs => (Number.natural? cs).filter (· < 256)

/-- The two pieces of an IPv4 address in four decimal parts. -/
def embedded? (cs : List Char) : Option (Nat × Nat) :=
  match (dotted cs).mapM byte? with
  | some [a, b, c, d] => some (a * 256 + b, c * 256 + d)
  | _ => none

def readPieces (p : Pieces) (cs : List Char) : Option Pieces :=
  if p.size = 8 then (if cs.isEmpty then some p else none) else
  match cs with
  | [] => some p
  | ':' :: rest =>
    match p.back with
    | some _ => none
    | none => readPieces { p with back := some [] } rest
  | c :: rest =>
    let digits := ((c :: rest).take 4).takeWhile isHex
    if digits.isEmpty then none else
    match _h : (c :: rest).drop digits.length with
    | [] => some (p.push (ofDigits 16 digits))
    | ':' :: more => if more.isEmpty then none else readPieces (p.push (ofDigits 16 digits)) more
    | '.' :: _ =>
      if 6 < p.size then none
      else (embedded? (c :: rest)).map fun (a, b) => (p.push a).push b
    | _ => none
termination_by cs.length
decreasing_by
  · simp
  · have hlen := congrArg List.length _h
    simp only [List.length_drop, List.length_cons] at hlen ⊢
    omega

/-- Read an address, without the brackets around it. -/
def ipv6? (cs : List Char) : Except UrlFault (List Nat) :=
  let pieces? := match cs with
    | ':' :: ':' :: rest => readPieces ⟨[], some []⟩ rest
    | ':' :: _ => none
    | [] => none
    | cs => readPieces ⟨[], none⟩ cs
  match pieces?.bind Pieces.full? with
  | some pieces => .ok pieces
  | none => .error .badIpv6

/-- The length of the run of zeros at the start. -/
def zeroRun (pieces : List Nat) : Nat := (pieces.takeWhile (· == 0)).length

/-- Where the first longest run of zeros starts, and its length. -/
def longestRun : Nat → List Nat → Nat × Nat
  | start, [] => (start, 0)
  | start, n :: rest =>
    let later := longestRun (start + 1) rest
    let here := zeroRun (n :: rest)
    if later.2 ≤ here then (start, here) else later

def joinPieces (pieces : List Nat) : List Char :=
  List.intercalate [':'] (pieces.map hexadecimal)

/-- The written form of an address, without brackets. -/
def ipv6Text (pieces : List Nat) : List Char :=
  let (start, length) := longestRun 0 pieces
  if length < 2 then joinPieces pieces
  else joinPieces (pieces.take start) ++ ':' :: ':' :: joinPieces (pieces.drop (start + length))

end ServerLogin.Url
