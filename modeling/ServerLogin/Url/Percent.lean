import ServerLogin.Text.Digit

/-!
Percent escapes.  Decoding works on bytes and leaves a `%` alone that two
hexadecimal digits do not follow; encoding replaces control characters and
everything outside ASCII by the escapes of their UTF-8 bytes.
-/

namespace ServerLogin.Url

open ServerLogin.Text

/-- Replace each escape by the byte it stands for. -/
def percentDecode : List UInt8 → List UInt8
  | [] => []
  | 37 :: a :: b :: rest =>
    if isHex (Char.ofUInt8 a) && isHex (Char.ofUInt8 b) then
      UInt8.ofNat (ofDigits 16 [Char.ofUInt8 a, Char.ofUInt8 b]) :: percentDecode rest
    else 37 :: percentDecode (a :: b :: rest)
  | byte :: rest => byte :: percentDecode rest

/-- What is no part of an escape is still there when escapes are replaced. -/
theorem mem_percentDecode {byte : UInt8} {bytes : List UInt8} (hsign : byte ≠ 37)
    (hhex : isHex (Char.ofUInt8 byte) = false) (h : byte ∈ bytes) :
    byte ∈ percentDecode bytes := by
  induction bytes using percentDecode.induct with
  | case1 => exact h
  | case2 a b rest hescape ih =>
    rw [percentDecode, if_pos hescape]
    simp only [Bool.and_eq_true] at hescape
    simp only [List.mem_cons] at h ⊢
    rcases h with rfl | rfl | rfl | h
    · exact absurd rfl hsign
    · simp [hescape.1] at hhex
    · simp [hescape.2] at hhex
    · exact Or.inr (ih h)
  | case3 a b rest hescape ih =>
    rw [percentDecode, if_neg hescape]
    rcases List.mem_cons.mp h with rfl | h
    · exact absurd rfl hsign
    · exact List.mem_cons_of_mem _ (ih h)
  | case4 b rest hshape ih =>
    rw [percentDecode]
    · rcases List.mem_cons.mp h with rfl | h
      · exact List.mem_cons_self
      · exact List.mem_cons_of_mem _ (ih h)
    · exact hshape

/-- A character of ASCII is one byte, which no other character has. -/
theorem mem_utf8EncodeChar_iff {c d : Char} (hc : c.toNat < 0x80) :
    UInt8.ofNat c.toNat ∈ String.utf8EncodeChar d ↔ d = c := by
  constructor
  · intro h
    have hvalue : c.toNat = d.val.toNat := by
      unfold String.utf8EncodeChar at h
      dsimp only at h
      repeat' split at h
      -- the bytes of a longer form are 128 and above
      all_goals
        simp only [List.mem_cons, List.not_mem_nil, or_false, ← UInt8.toNat_inj,
          UInt8.toNat_ofNat'] at h
        omega
    exact Char.toNat_inj.mp hvalue.symm
  · rintro rfl
    have hle : d.val.toNat ≤ 0x7F := Nat.le_of_lt_succ hc
    unfold String.utf8EncodeChar
    rw [if_pos hle]
    exact List.mem_singleton_self _

theorem utf8_of_fromUTF8? {bytes : List UInt8} {text : String}
    (h : String.fromUTF8? bytes.toByteArray = some text) :
    text.toList.flatMap String.utf8EncodeChar = bytes := by
  have hsame : text.toByteArray = bytes.toByteArray := by
    unfold String.fromUTF8? at h
    split at h
    · obtain rfl := Option.some.inj h
      rfl
    · cases h
  rw [← String.utf8Encode_toList, List.utf8Encode] at hsame
  simpa using congrArg (·.data.toList) hsame

def percentEscape (c : Char) : List Char :=
  (String.utf8EncodeChar c).flatMap fun b => '%' :: hexByte b.toNat

/-- Escape control characters and characters outside ASCII. -/
def percentEncode (cs : List Char) : List Char :=
  cs.flatMap fun c => if 0x20 ≤ c.toNat ∧ c.toNat < 0x7F then [c] else percentEscape c

end ServerLogin.Url
