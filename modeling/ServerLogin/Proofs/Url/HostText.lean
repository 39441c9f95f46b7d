import ServerLogin.Proofs.Number.Integer
import ServerLogin.Proofs.Url.Ipv6
import ServerLogin.Proofs.Url.SchemeCase

/-!
The written form of a host that is read from a URL (`isWritten_of_read`).  Neither blanks nor
control characters stand in it, nor slashes, and colons only when it is an IPv6 address in
brackets: a domain name is checked for them before its labels are written, a host name that is
kept is escaped, and an address has digits and signs of its own.
-/

namespace ServerLogin.Url

open ServerLogin.Text

/-- A character that can stand in the written form of a host. -/
def IsHostChar (c : Char) : Prop := 0x20 < c.toNat ∧ c ≠ '/'

instance (c : Char) : Decidable (IsHostChar c) := inferInstanceAs (Decidable (_ ∧ _))

/-- A character that can stand in the written form of a host outside brackets. -/
def IsNameChar (c : Char) : Prop := IsHostChar c ∧ c ≠ ':'

instance (c : Char) : Decidable (IsNameChar c) := inferInstanceAs (Decidable (_ ∧ _))

theorem isNameChar_of_domain {c : Char} (h : isForbiddenInDomain c = false) : IsNameChar c := by
  simp only [isForbiddenInDomain, Bool.or_eq_false_iff, decide_eq_false_iff_not] at h
  refine ⟨⟨Nat.lt_of_not_le h.1.1, ?_⟩, ?_⟩
  · rintro rfl
    exact absurd h.2 (by decide)
  · rintro rfl
    exact absurd h.2 (by decide)

theorem isNameChar_of_isDigit {c : Char} (h : c.isDigit = true) : IsNameChar c := by
  refine ⟨⟨?_, Number.ne_of_isDigit h (by decide)⟩, Number.ne_of_isDigit h (by decide)⟩
  simp only [Char.isDigit, Bool.and_eq_true, decide_eq_true_eq] at h
  have hlow : '0'.toNat ≤ c.toNat := h.1
  exact Nat.lt_of_lt_of_le (by decide) hlow

namespace Punycode

theorem threshold_le (bias k : Nat) : 1 ≤ threshold bias k ∧ threshold bias k ≤ 26 := by
  unfold threshold
  split
  · decide
  · split
    · decide
    · omega

/-- The digits of a number are below 36. -/
theorem exists_of_mem_numberDigits {steps bias k q : Nat} {c : Char}
    (h : c ∈ numberDigits steps bias k q) : ∃ d < 36, c = ofDigit d := by
  induction steps generalizing k q with
  | zero => cases h
  | succ steps ih =>
    obtain ⟨hone, hsmall⟩ := threshold_le bias k
    rw [numberDigits] at h
    split at h
    · next hlast => exact ⟨q, by omega, List.mem_singleton.mp h⟩
    · rcases List.mem_cons.mp h with rfl | hmore
      · have hrest := Nat.mod_lt (q - threshold bias k) (y := 36 - threshold bias k) (by omega)
        exact ⟨_, by omega, rfl⟩
      · exact ih hmore

section Output

variable {P : Char → Prop} (hdigit : ∀ d < 36, P (ofDigit d))
include hdigit

theorem Encoder.output_pass {s : Encoder} (h : ∀ c ∈ s.output, P c) (basic code : Nat) (d : Char) :
    ∀ c ∈ (s.pass basic code d).output, P c := by
  unfold Encoder.pass
  split
  · exact h
  · split
    · apply List.forall_mem_append.mpr ⟨h, ?_⟩
      intro c hc
      obtain ⟨d, hd, rfl⟩ := exists_of_mem_numberDigits hc
      exact hdigit d hd
    · exact h

theorem output_encodeCodes {codes : List Nat} {cs : List Char} {basic low : Nat} {s : Encoder}
    (h : ∀ c ∈ s.output, P c) : ∀ c ∈ (encodeCodes cs basic low codes s).output, P c := by
  have hfold : ∀ (code : Nat) (ds : List Char) (s : Encoder), (∀ c ∈ s.output, P c) →
      ∀ c ∈ (ds.foldl (Encoder.pass basic code) s).output, P c := by
    intro code ds
    induction ds with
    | nil => exact fun s hs => hs
    | cons d rest ih => exact fun s hs => ih _ (Encoder.output_pass hdigit hs basic code d)
  induction codes generalizing low s with
  | nil => exact h
  | cons code more ih =>
    rw [encodeCodes]
    apply ih
    apply hfold
    exact h

end Output

/-- A punycode form has the ASCII characters of the text, hyphens and digits. -/
theorem mem_encode {P : Char → Prop} {cs : List Char} (hdigit : ∀ d < 36, P (ofDigit d))
    (hhyphen : P '-') (h : ∀ c ∈ cs, P c) : ∀ c ∈ encode cs, P c := by
  have hbasic : ∀ c ∈ cs.filter (·.toNat < 128), P c := fun c hc => h c (List.mem_filter.mp hc).1
  unfold encode
  dsimp only
  apply output_encodeCodes hdigit
  split
  · exact List.forall_mem_nil _
  · exact List.forall_mem_append.mpr ⟨hbasic, List.forall_mem_singleton.mpr hhyphen⟩

end Punycode

theorem isNameChar_ofDigit {d : Nat} (h : d < 36) : IsNameChar (Punycode.ofDigit d) :=
  (by decide : ∀ d : Fin 36, IsNameChar (Punycode.ofDigit d.val)) ⟨d, h⟩

/-- What stands in joined texts stands in one of them or in the separator. -/
theorem forall_mem_intercalate (P : Char → Prop) {sep : List Char} {texts : List (List Char)}
    (hsep : ∀ c ∈ sep, P c) (h : ∀ text ∈ texts, ∀ c ∈ text, P c) :
    ∀ c ∈ List.intercalate sep texts, P c := by
  have hall : ∀ text ∈ texts.intersperse sep, ∀ c ∈ text, P c := by
    induction texts with
    | nil => exact List.forall_mem_nil _
    | cons first rest ih =>
      rw [List.forall_mem_cons] at h
      cases rest with
      | nil => exact List.forall_mem_singleton.mpr h.1
      | cons second more =>
        exact List.forall_mem_cons.mpr ⟨h.1, List.forall_mem_cons.mpr ⟨hsep, ih h.2⟩⟩
  intro c hc
  obtain ⟨text, htext, hmem⟩ := List.mem_flatten.mp hc
  exact hall text htext c hmem

theorem wire_of_ofPunycode? {wire digits : List Char} {label : Label}
    (h : ofPunycode? wire digits = some label) : label.wire = wire := by
  unfold ofPunycode? at h
  split at h
  · cases h
  · split at h
    · cases h
    · repeat' split at h
      all_goals first
        | cases h; rfl
        | cases h

/-- A label is written as it is, or in punycode. -/
theorem wire_of_label? {cs : List Char} {label : Label} (h : label? cs = some label) :
    label.wire = cs ∨ label.wire = "xn--".toList ++ Punycode.encode cs := by
  rw [label?.eq_def] at h
  split at h
  · cases h
  · split at h
    · split at h
      · exact .inl (wire_of_ofPunycode? h)
      · cases h
    · split at h
      · cases h
        exact .inl rfl
      · split at h
        · cases h
        · cases h
          exact .inr rfl

theorem isNameChar_of_label? {cs : List Char} {label : Label} (h : label? cs = some label) :
    ∀ c ∈ label.wire, IsNameChar c := by
  have hcs : ∀ c ∈ cs, IsNameChar c := by
    intro c hc
    apply isNameChar_of_domain
    by_contra hforbidden
    rw [label?.eq_def, if_pos (List.any_eq_true.mpr ⟨c, hc, by simpa using hforbidden⟩)] at h
    cases h
  rcases wire_of_label? h with hsame | hpunycode
  · rw [hsame]
    exact hcs
  · have hmark : ∀ c ∈ "xn--".toList, IsNameChar c := by simp [IsNameChar, IsHostChar]
    rw [hpunycode]
    exact List.forall_mem_append.mpr ⟨hmark,
      Punycode.mem_encode (fun d hd => isNameChar_ofDigit hd) (by decide) hcs⟩

theorem isNameChar_of_asciiDomain? {cs name : List Char} (h : asciiDomain? cs = some name) :
    ∀ c ∈ name, IsNameChar c := by
  simp only [asciiDomain?, Option.bind_eq_bind, Option.bind_eq_some_iff] at h
  obtain ⟨readings, -, labels, hlabels, hname⟩ := h
  split at hname
  · cases hname
  · cases hname
    apply forall_mem_intercalate IsNameChar (List.forall_mem_singleton.mpr (by decide))
    intro wire hwire
    obtain ⟨label, hlabel, rfl⟩ := List.mem_map.mp hwire
    obtain ⟨part, -, hread⟩ := exists_of_mapM hlabels hlabel
    exact isNameChar_of_label? hread

theorem isHostChar_of_hexadecimal (n : Nat) : ∀ c ∈ hexadecimal n, IsHostChar c := by
  intro c hc
  obtain ⟨d, hd, rfl⟩ := exists_of_mem_hexadecimal hc
  exact (by decide : ∀ d : Fin 16, IsHostChar (Nat.digitChar d.val)) ⟨d, hd⟩

theorem isNameChar_of_ipv4Text (n : Nat) : ∀ c ∈ ipv4Text n, IsNameChar c := by
  have hpoint : IsNameChar '.' := by decide
  have hdecimal : ∀ m, ∀ c ∈ decimal m, IsNameChar c := fun m c hc =>
    isNameChar_of_isDigit (Number.isDigit_of_mem_decimal hc)
  simp only [ipv4Text, List.forall_mem_append, List.forall_mem_cons]
  exact ⟨⟨⟨hdecimal _, hpoint, hdecimal _⟩, hpoint, hdecimal _⟩, hpoint, hdecimal _⟩

theorem isHostChar_of_ipv6Text (pieces : List Nat) : ∀ c ∈ ipv6Text pieces, IsHostChar c := by
  have hcolon : IsHostChar ':' := by decide
  have hjoin : ∀ pieces, ∀ c ∈ joinPieces pieces, IsHostChar c := by
    intro pieces
    apply forall_mem_intercalate IsHostChar (List.forall_mem_singleton.mpr hcolon)
    intro text htext
    obtain ⟨n, -, rfl⟩ := List.mem_map.mp htext
    exact isHostChar_of_hexadecimal n
  rcases ipv6Text_cases pieces with hfull | ⟨front, zeros, back, -, -, hgap⟩
  · rw [hfull]
    exact hjoin pieces
  · rw [hgap]
    exact List.forall_mem_append.mpr ⟨hjoin front, List.forall_mem_cons.mpr ⟨hcolon,
      List.forall_mem_cons.mpr ⟨hcolon, hjoin back⟩⟩⟩

/-- A host name that is kept is escaped, so that only characters of ASCII are left. -/
theorem isNameChar_of_percentEncode {cs : List Char}
    (h : ∀ c ∈ cs, Host.isForbiddenInName c = false) : ∀ c ∈ percentEncode cs, IsNameChar c := by
  have hescape : ∀ b, ∀ c ∈ hexByte b, IsNameChar c := by
    have hdigit : ∀ d < 16, IsNameChar (upperAscii (Nat.digitChar d)) := fun d hd =>
      (by decide : ∀ d : Fin 16, IsNameChar (upperAscii (Nat.digitChar d.val))) ⟨d, hd⟩
    intro b
    exact List.forall_mem_cons.mpr ⟨hdigit _ (Nat.mod_lt _ (by decide)),
      List.forall_mem_singleton.mpr (hdigit _ (Nat.mod_lt _ (by decide)))⟩
  intro c hc
  obtain ⟨plain, hplain, hmem⟩ := List.mem_flatMap.mp hc
  split at hmem
  · next hascii =>
    obtain rfl := List.mem_singleton.mp hmem
    have hallowed := h c hplain
    refine ⟨⟨?_, ?_⟩, ?_⟩
    · have hblank : c.toNat ≠ 0x20 := by
        intro heq
        obtain rfl : c = ' ' := Char.toNat_inj.mp heq
        exact absurd hallowed (by decide)
      omega
    · rintro rfl
      exact absurd hallowed (by decide)
    · rintro rfl
      exact absurd hallowed (by decide)
  · obtain ⟨byte, -, hmem⟩ := List.mem_flatMap.mp hmem
    rcases List.mem_cons.mp hmem with rfl | hmem
    · decide
    · exact hescape _ c hmem

/-- The written form of a host: an IPv6 address in brackets, or a text without colons. -/
inductive IsWritten : List Char → Prop
  | address {pieces : List Nat} (h : IsAddress pieces) :
      IsWritten ('[' :: ipv6Text pieces ++ [']'])
  | name {cs : List Char} (h : ∀ c ∈ cs, IsNameChar c) : IsWritten cs

theorem IsWritten.isHostChar {cs : List Char} (h : IsWritten cs) : ∀ c ∈ cs, IsHostChar c := by
  cases h with
  | name h => exact fun c hc => (h c hc).1
  | @address pieces _ =>
    have hopen : IsHostChar '[' := by decide
    have hclose : IsHostChar ']' := by decide
    exact List.forall_mem_cons.mpr ⟨hopen, List.forall_mem_append.mpr
      ⟨isHostChar_of_ipv6Text pieces, List.forall_mem_singleton.mpr hclose⟩⟩

namespace Host

theorem isWritten_of_bracketed {rest : List Char} {host : Host} (h : bracketed rest = .ok host) :
    IsWritten host.text.toList := by
  unfold bracketed at h
  split at h
  · next inner _ =>
    cases hpieces : ipv6? inner.reverse with
    | error fault =>
      rw [hpieces] at h
      cases h
    | ok pieces =>
      rw [hpieces] at h
      cases h
      rw [text, String.toList_ofList]
      exact .address (isAddress_of_ipv6? hpieces)
  · cases h

theorem isWritten_of_read {cs : List Char} {host : Host} (h : Host.read cs = .ok host) :
    IsWritten host.text.toList := by
  unfold Host.read at h
  split at h
  · exact isWritten_of_bracketed h
  · split at h
    · cases h
    · next name hname =>
      obtain ⟨plain, -, hdomain⟩ := Option.bind_eq_some_iff.mp hname
      split at h
      · cases h
      · split at h
        · cases haddress : ipv4? name with
          | error fault =>
            rw [haddress] at h
            cases h
          | ok address =>
            rw [haddress] at h
            cases h
            rw [text, String.toList_ofList]
            exact .name (isNameChar_of_ipv4Text address)
        · cases h
          rw [text, String.toList_ofList]
          exact .name (isNameChar_of_asciiDomain? hdomain)

theorem isWritten_of_readVerbatim {cs : List Char} {host : Host}
    (h : readVerbatim cs = .ok host) : IsWritten host.text.toList := by
  unfold readVerbatim at h
  split at h
  · exact isWritten_of_bracketed h
  · split at h
    · cases h
    · next hforbidden =>
      cases h
      rw [text, String.toList_ofList]
      apply IsWritten.name
      apply isNameChar_of_percentEncode
      intro c hc
      by_contra hbad
      exact hforbidden (List.any_eq_true.mpr ⟨c, hc, by simpa using hbad⟩)

end Host

/-- The host of a URL, if it has one, is read in one of the two ways. -/
def HostIsRead (url : Url) : Prop :=
  ∀ host, url.host = some host →
    ∃ name, Host.read name = .ok host ∨ Host.readVerbatim name = .ok host

theorem hostIsRead_of_none {url : Url} (h : url.host = none) : url.HostIsRead := by
  intro host hhost
  rw [h] at hhost
  cases hhost

theorem hostIsRead_of_readAuthority {scheme : String} {kind : Kind} {cs : List Char} {url : Url}
    (h : readAuthority scheme kind cs = .ok url) : url.HostIsRead := by
  simp only [readAuthority, bind, Except.bind, pure, Except.pure, throw, throwThe,
    MonadExceptOf.throw] at h
  repeat' split at h
  all_goals cases h
  all_goals
    intro host hhost
    cases hhost
  -- the kind of the scheme has decided how the name was read
  all_goals first
    | exact ⟨_, .inl (by assumption)⟩
    | exact ⟨_, .inr (by assumption)⟩

theorem hostIsRead_of_readFile {cs : List Char} {url : Url} (h : readFile cs = .ok url) :
    url.HostIsRead := by
  simp only [readFile] at h
  split at h
  · split at h
    · split at h
      · cases h
        exact hostIsRead_of_none rfl
      · split at h
        · cases h
        · next host hread =>
          split at h
          · cases h
            exact hostIsRead_of_none rfl
          · cases h
            rintro _ ⟨⟩
            exact ⟨_, .inl hread⟩
    · cases h
      exact hostIsRead_of_none rfl
  · cases h
    exact hostIsRead_of_none rfl

theorem hostIsRead_of_read {s : String} {url : Url} (h : read s = .ok url) : url.HostIsRead := by
  unfold read at h
  split at h
  · cases h
  · split at h
    · exact hostIsRead_of_readAuthority h
    · exact hostIsRead_of_readFile h
    · split at h
      · exact hostIsRead_of_readAuthority h
      · cases h
        exact hostIsRead_of_none rfl

/-- The host of a URL is an IPv6 address in brackets or has no colons; no host is written as
no text. -/
theorem isWritten_of_read {s : String} {url : Url} (h : read s = .ok url) :
    IsWritten url.hostText.toList := by
  cases hhost : url.host with
  | none =>
    rw [hostText, hhost]
    exact .name (List.forall_mem_nil _)
  | some host =>
    rw [hostText, hhost]
    obtain ⟨name, hread | hread⟩ := hostIsRead_of_read h host hhost
    · exact Host.isWritten_of_read hread
    · exact Host.isWritten_of_readVerbatim hread

/-- In the written form of the host of a URL stand neither blanks nor control characters, nor
slashes. -/
theorem isHostChar_of_read {s : String} {url : Url} (h : read s = .ok url) :
    ∀ c ∈ url.hostText.toList, IsHostChar c :=
  (isWritten_of_read h).isHostChar

/-- The scheme of a URL has letters, digits and three signs. -/
theorem isSchemeChar_of_read {s : String} {url : Url} (h : read s = .ok url) :
    ∀ c ∈ url.scheme.toList, isSchemeChar c = true := by
  obtain ⟨rest, hsplit⟩ := scheme_of_read h
  simp only [splitScheme?] at hsplit
  split at hsplit
  · split at hsplit
    · obtain ⟨hscheme, -⟩ := Prod.mk.inj (Option.some.inj hsplit)
      rw [← hscheme, String.toList_ofList]
      intro c hc
      obtain ⟨d, hd, rfl⟩ := List.mem_map.mp hc
      rw [isSchemeChar_lowerAscii]
      exact List.mem_takeWhile_imp hd
    · cases hsplit
  · cases hsplit

end ServerLogin.Url
