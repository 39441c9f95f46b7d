import ServerLogin.Text.Digit

/-!
Punycode: a text of any characters as ASCII letters, digits and hyphens.  The
ASCII characters come first; behind the last hyphen follow numbers of variable
length that say where each other character, taken in increasing order, is
inserted.
-/

namespace ServerLogin.Url.Punycode

open ServerLogin.Text

/-- The digit that separates a number from the next, at position `k` of it. -/
def threshold (bias k : Nat) : Nat :=
  if k ≤ bias then 1 else if bias + 26 ≤ k then 26 else k - bias

/-- Divide `delta` down until it is at most 455, and place the new bias. -/
private def settle : Nat → Nat → Nat → Nat
  | 0, delta, k => k + 36 * delta / (delta + 38)
  | steps + 1, delta, k =>
    if 455 < delta then settle steps (delta / 35) (k + 36) else k + 36 * delta / (delta + 38)

/-- The bias after an insertion that moved by `delta` in a text of `size`
characters. -/
private def adapt (delta size : Nat) (first : Bool) : Nat :=
  let delta := if first then delta / 700 else delta / 2
  settle delta (delta + delta / size) 0

private def digitOf (c : Char) : Option Nat :=
  if 'a' ≤ c ∧ c ≤ 'z' then some (c.toNat - 'a'.toNat)
  else if 'A' ≤ c ∧ c ≤ 'Z' then some (c.toNat - 'A'.toNat)
  else if '0' ≤ c ∧ c ≤ '9' then some (c.toNat - '0'.toNat + 26)
  else none

/-- The digit of a value below 36: letters, then decimal digits. -/
def ofDigit (d : Nat) : Char :=
  if d < 26 then Char.ofNat (d + 'a'.toNat) else Char.ofNat (d - 26 + '0'.toNat)

/-- Where decoding stands: the text so far, the next character and position to
insert at, and the number being read. -/
private structure Decoder where
  text : List Char
  code : Nat
  index : Nat
  bias : Nat
  start : Nat
  weight : Nat
  k : Nat

/-- Finish a number: insert the character it stands for. -/
private def Decoder.insert (s : Decoder) (index : Nat) : Option Decoder :=
  let size := s.text.length + 1
  let code := s.code + index / size
  let place := index % size
  if 0x10FFFF < code ∨ (0xD800 ≤ code ∧ code ≤ 0xDFFF) then none
  else some
    { text := s.text.take place ++ Char.ofNat code :: s.text.drop place
      code := code
      index := place + 1
      bias := adapt (index - s.start) size (s.start == 0)
      start := place + 1
      weight := 1
      k := 36 }

/-- Take one more digit. -/
private def Decoder.take (s : Decoder) (c : Char) : Option Decoder :=
  (digitOf c).bind fun digit =>
    let index := s.index + digit * s.weight
    let t := threshold s.bias s.k
    if t ≤ digit then
      some { s with index := index, weight := s.weight * (36 - t), k := s.k + 36 }
    else s.insert index

/-- The text behind a punycode form; a number must not break off. -/
def decode? (cs : List Char) : Option (List Char) := do
  let tail := (cs.reverse.takeWhile (· ≠ '-')).reverse
  let head := cs.take (cs.length - tail.length - 1)
  let tail := if head.isEmpty then cs else tail
  let s ← tail.foldlM Decoder.take ⟨head, 128, 0, 72, 0, 1, 36⟩
  if s.weight = 1 then some s.text else none

/-- The digits of a number of variable length; each step divides it. -/
def numberDigits : Nat → Nat → Nat → Nat → List Char
  | 0, _, _, _ => []
  | steps + 1, bias, k, q =>
    let t := threshold bias k
    if q < t then [ofDigit q]
    else ofDigit (t + (q - t) % (36 - t)) ::
      numberDigits steps bias (k + 36) ((q - t) / (36 - t))

/-- Where encoding stands: the text so far, how far the next insertion moves, the bias of its
digits, and the number of characters written. -/
structure Encoder where
  output : List Char
  delta : Nat
  bias : Nat
  size : Nat

/-- Write where the character `code` stands among those up to it. -/
def Encoder.pass (basic code : Nat) (s : Encoder) (c : Char) : Encoder :=
  if c.toNat < code then { s with delta := s.delta + 1 }
  else if c.toNat = code then
    { output := s.output ++ numberDigits (s.delta + 2) s.bias 36 s.delta, delta := 0,
      bias := adapt s.delta (s.size + 1) (s.size == basic), size := s.size + 1 }
  else s

/-- Insert the characters of a text in increasing order. -/
def encodeCodes (cs : List Char) (basic : Nat) : Nat → List Nat → Encoder → Encoder
  | _, [], s => s
  | low, code :: more, s =>
    let s := { s with delta := s.delta + (code - low) * (s.size + 1) }
    let s := cs.foldl (Encoder.pass basic code) s
    encodeCodes cs basic (code + 1) more { s with delta := s.delta + 1 }

def encode (cs : List Char) : List Char :=
  let basic := cs.filter (·.toNat < 128)
  let codes := ((cs.map (·.toNat)).filter (128 ≤ ·)).mergeSort.eraseDups
  let head := if basic.isEmpty then [] else basic ++ ['-']
  (encodeCodes cs basic.length 128 codes ⟨head, 0, 72, basic.length⟩).output

end ServerLogin.Url.Punycode
