import ServerLogin.Url.Domain.Name
import ServerLogin.Url.Ipv6
import ServerLogin.Url.Percent

/-!
Hosts.  The host of a web address is an IPv6 address in brackets, an IPv4
address, or a domain name in its ASCII form.  Any other scheme has a host name
that is kept as it is, up to percent escapes.
-/

namespace ServerLogin.Url

open ServerLogin.Text

inductive Host
  | domain (name : String)
  | ipv4 (address : Nat)
  | ipv6 (pieces : List Nat)
  | verbatim (name : String)
deriving DecidableEq, Repr

namespace Host

def text : Host → String
  | .domain name => name
  | .ipv4 address => String.ofList (ipv4Text address)
  | .ipv6 pieces => String.ofList ('[' :: ipv6Text pieces ++ [']'])
  | .verbatim name => name

/-- Read an address between brackets. -/
def bracketed (rest : List Char) : Except UrlFault Host :=
  match rest.reverse with
  | ']' :: inner => (ipv6? inner.reverse).map .ipv6
  | _ => .error .badIpv6

/-- The text behind percent escapes; bytes that are no UTF-8 are refused. -/
private def unescaped? (cs : List Char) : Option (List Char) :=
  if cs.contains '%' then
    let bytes := percentDecode (cs.flatMap String.utf8EncodeChar)
    (String.fromUTF8? bytes.toByteArray).map String.toList
  else some cs

/-- Read the host of a web address. -/
def read : List Char → Except UrlFault Host
  | '[' :: rest => bracketed rest
  | cs =>
    match (unescaped? cs).bind asciiDomain? with
    | none => .error .badDomain
    | some name =>
      if name.isEmpty then .error .emptyHost
      else if endsInNumber name then (ipv4? name).map .ipv4
      else .ok (.domain (String.ofList name))

/-- A character of ASCII that is no part of an escape is still there when escapes are
replaced. -/
private theorem mem_of_unescaped? {c : Char} {cs plain : List Char} (hascii : c.toNat < 0x80)
    (hsign : c ≠ '%') (hhex : isHex c = false) (hmem : c ∈ cs)
    (h : unescaped? cs = some plain) : c ∈ plain := by
  have hvalue : (UInt8.ofNat c.toNat).toNat = c.toNat := by
    rw [UInt8.toNat_ofNat']
    omega
  have hback : Char.ofUInt8 (UInt8.ofNat c.toNat) = c := by
    apply Char.toNat_inj.mp
    exact hvalue
  unfold unescaped? at h
  split at h
  · obtain ⟨text, htext, rfl⟩ := Option.map_eq_some_iff.mp h
    have hbyte : UInt8.ofNat c.toNat ∈ text.toList.flatMap String.utf8EncodeChar := by
      rw [utf8_of_fromUTF8? htext]
      apply mem_percentDecode
      · intro heq
        apply hsign
        apply Char.toNat_inj.mp
        rw [← hvalue, heq]
        rfl
      · rw [hback]
        exact hhex
      · exact List.mem_flatMap.mpr ⟨c, hmem, (mem_utf8EncodeChar_iff hascii).mpr rfl⟩
    obtain ⟨d, hd, hmem⟩ := List.mem_flatMap.mp hbyte
    rwa [(mem_utf8EncodeChar_iff hascii).mp hmem] at hd
  · obtain rfl := Option.some.inj h
    exact hmem

/-- A colon may stand in the host of a web address only between brackets. -/
theorem read_colon {cs : List Char} (hcolon : ':' ∈ cs) (hlast : cs.getLast? ≠ some ']') :
    ∃ fault, read cs = .error fault := by
  unfold read
  split
  · next rest =>
    refine ⟨.badIpv6, ?_⟩
    unfold bracketed
    split
    · next inner hreverse =>
      exfalso
      apply hlast
      rw [← List.head?_reverse, List.reverse_cons, hreverse]
      rfl
    · rfl
  · refine ⟨.badDomain, ?_⟩
    cases hplain : unescaped? cs with
    | none => rfl
    | some plain =>
      have hmem := mem_of_unescaped? (by decide) (by decide) (by decide) hcolon hplain
      rw [Option.bind_some, asciiDomain?_eq_none (by decide) (by decide) hmem]

def isForbiddenInName (c : Char) : Bool :=
  "\x00\t\n\r #/:<>?@[\\]^|".toList.contains c

/-- Read the host of a scheme without rules of its own. -/
def readVerbatim : List Char → Except UrlFault Host
  | '[' :: rest => bracketed rest
  | cs =>
    if cs.any isForbiddenInName then .error .forbiddenCharacter
    else .ok (.verbatim (String.ofList (percentEncode cs)))

end Host

end ServerLogin.Url
