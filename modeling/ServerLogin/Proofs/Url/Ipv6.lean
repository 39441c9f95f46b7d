import Mathlib.Data.List.TakeWhile
import ServerLogin.Proofs.Text.Hexadecimal
import ServerLogin.Proofs.Text.Run
import ServerLogin.Url.Ipv6

/-!
IPv6 addresses.  What is read as an address has eight pieces of sixteen bits
(`isAddress_of_ipv6?`), and every such address is read back as it is written, whatever run of
zeros the writing leaves out (`ipv6?_ipv6Text`).
-/

namespace ServerLogin.Url

open ServerLogin.Text

/-- The pieces of an address: eight of sixteen bits each. -/
structure IsAddress (pieces : List Nat) : Prop where
  length : pieces.length = 8
  bits : ∀ n ∈ pieces, n < 65536

section Reading

theorem exists_of_mapM {α β : Type} {f : α → Option β} {as : List α} {bs : List β}
    (h : as.mapM f = some bs) {b : β} (hb : b ∈ bs) : ∃ a ∈ as, f a = some b := by
  induction as generalizing bs with
  | nil =>
    obtain rfl := Option.some.inj h
    cases hb
  | cons a rest ih =>
    simp only [List.mapM_cons, Option.bind_eq_bind, Option.bind_eq_some_iff, Option.pure_def,
      Option.some.injEq] at h
    obtain ⟨first, hfirst, more, hmore, rfl⟩ := h
    rcases List.mem_cons.mp hb with rfl | hb
    · exact ⟨a, List.mem_cons_self, hfirst⟩
    · obtain ⟨c, hc, hread⟩ := ih hmore hb
      exact ⟨c, List.mem_cons_of_mem a hc, hread⟩

/-- All pieces read so far have sixteen bits. -/
def Pieces.Fits (p : Pieces) : Prop := ∀ n ∈ p.front ++ p.back.getD [], n < 65536

theorem Pieces.Fits.push {p : Pieces} (h : p.Fits) {n : Nat} (hn : n < 65536) :
    (p.push n).Fits := by
  obtain ⟨front, back⟩ := p
  intro m hm
  cases back with
  | none =>
    simp only [Pieces.push, Option.getD_none, List.append_nil, List.mem_append,
      List.mem_singleton] at hm
    rcases hm with hm | rfl
    · exact h m (List.mem_append_left _ hm)
    · exact hn
  | some back =>
    simp only [Pieces.push, Option.getD_some, ← List.append_assoc, List.mem_append,
      List.mem_singleton] at hm
    rcases hm with hm | rfl
    · exact h m (List.mem_append.mpr hm)
    · exact hn

theorem byte_lt_of_byte? {cs : List Char} {n : Nat} (h : byte? cs = some n) : n < 256 := by
  unfold byte? at h
  split at h
  · cases h
    decide
  · cases h
  · exact of_decide_eq_true (Option.filter_eq_some_iff.mp h).2

theorem fits_of_embedded? {cs : List Char} {a b : Nat} (h : embedded? cs = some (a, b)) :
    a < 65536 ∧ b < 65536 := by
  unfold embedded? at h
  split at h
  · next first second third fourth hbytes =>
    obtain ⟨rfl, rfl⟩ := Prod.mk.inj (Option.some.inj h)
    have hlt : ∀ n ∈ [first, second, third, fourth], n < 256 := by
      intro n hn
      obtain ⟨part, -, hpart⟩ := exists_of_mapM hbytes hn
      exact byte_lt_of_byte? hpart
    simp only [List.forall_mem_cons] at hlt
    omega
  · cases h

theorem piece_lt (cs : List Char) : ofDigits 16 ((cs.take 4).takeWhile isHex) < 65536 := by
  have hdigits : ∀ c ∈ (cs.take 4).takeWhile isHex, isDigitIn 16 c = true :=
    fun c hc => List.mem_takeWhile_imp hc
  have hlength : ((cs.take 4).takeWhile isHex).length ≤ 4 :=
    Nat.le_trans (List.takeWhile_sublist _).length_le (List.length_take_le 4 cs)
  calc ofDigits 16 ((cs.take 4).takeWhile isHex)
      < 16 ^ ((cs.take 4).takeWhile isHex).length := ofDigits_lt hdigits
    _ ≤ 16 ^ 4 := Nat.pow_le_pow_right (by decide) hlength

theorem fits_of_readPieces {p q : Pieces} {cs : List Char} (hp : p.Fits)
    (h : readPieces p cs = some q) : q.Fits := by
  fun_induction readPieces p cs with
  | case5 p _ rest hback ih =>
    apply ih _ h
    intro n hn
    apply hp
    rwa [hback]
  | case7 p =>
    cases h
    exact hp.push (piece_lt _)
  | case9 p _ _ _ _ _ _ _ _ _ ih => exact ih (hp.push (piece_lt _)) h
  | case11 p =>
    obtain ⟨⟨a, b⟩, hlast, rfl⟩ := Option.map_eq_some_iff.mp h
    obtain ⟨ha, hb⟩ := fits_of_embedded? hlast
    exact (hp.push ha).push hb
  | _ =>
    cases h <;> exact hp

theorem Pieces.isAddress_of_full? {p : Pieces} (hp : p.Fits) {pieces : List Nat}
    (h : p.full? = some pieces) : IsAddress pieces := by
  obtain ⟨front, back⟩ := p
  cases back with
  | none =>
    obtain ⟨hlength, hpieces⟩ := Option.ite_none_right_eq_some.mp h
    cases hpieces
    exact ⟨hlength, fun n hn => hp n (List.mem_append_left _ hn)⟩
  | some back =>
    obtain ⟨hsize, hpieces⟩ := Option.ite_none_right_eq_some.mp h
    cases hpieces
    replace hsize : front.length + 1 + back.length ≤ 8 := hsize
    constructor
    · simp only [List.length_append, List.length_replicate]
      omega
    · intro n hn
      simp only [List.mem_append, List.mem_replicate] at hn
      rcases hn with (hn | ⟨-, rfl⟩) | hn
      · exact hp n (List.mem_append_left _ hn)
      · decide
      · exact hp n (List.mem_append_right _ hn)

theorem isAddress_of_ipv6? {cs : List Char} {pieces : List Nat} (h : ipv6? cs = .ok pieces) :
    IsAddress pieces := by
  have hempty : ∀ back, (back = none ∨ back = some []) → Pieces.Fits ⟨[], back⟩ := by
    rintro _ (rfl | rfl) <;> simp [Pieces.Fits]
  rw [ipv6?.eq_def] at h
  dsimp only at h
  split at h
  · next read hread =>
    cases h
    obtain ⟨q, hq, hfull⟩ := Option.bind_eq_some_iff.mp hread
    refine Pieces.isAddress_of_full? ?_ hfull
    -- the reading starts with no pieces, in front of `::` or behind it
    split at hq
    · exact fits_of_readPieces (hempty _ (.inr rfl)) hq
    · cases hq
    · cases hq
    · exact fits_of_readPieces (hempty _ (.inl rfl)) hq
  · cases h

end Reading

section Writing

/-- What may stand behind a piece: nothing, or a colon with more behind it. -/
def EndsPiece (rest : List Char) : Prop := rest = [] ∨ ∃ c more, rest = ':' :: c :: more

theorem EndsPiece.head {rest : List Char} (h : EndsPiece rest) : ∀ c ∈ rest.head?, c = ':' := by
  rcases h with rfl | ⟨c, more, rfl⟩
  · simp
  · simp

/-- The digits of a piece are found again, since it has at most four of them. -/
theorem takeWhile_piece {n : Nat} (hn : n < 65536) {rest : List Char} (hrest : EndsPiece rest) :
    ((hexadecimal n ++ rest).take 4).takeWhile isHex = hexadecimal n := by
  have hlength : (hexadecimal n).length ≤ 4 := length_hexadecimal_le (by decide) hn
  rw [List.take_append, List.take_of_length_le hlength]
  apply takeWhile_append_of_head fun _ => isHex_of_mem_hexadecimal
  intro c hc
  have hcolon : c = ':' := by
    apply hrest.head
    cases hopen : 4 - (hexadecimal n).length with
    | zero => simp [hopen] at hc
    | succ k =>
      rw [hopen] at hc
      cases rest with
      | nil => simp at hc
      | cons d more => exact hc
  rw [hcolon]
  rfl

theorem readPieces_nil (p : Pieces) : readPieces p [] = some p := by
  rw [readPieces]
  split <;> rfl

theorem hexadecimal_eq_cons (n : Nat) :
    ∃ c digits, hexadecimal n = c :: digits ∧ c ≠ ':' := by
  obtain ⟨c, digits, hcons⟩ :=
    List.exists_cons_of_ne_nil (Nat.toDigits_ne_nil (b := 16) (n := n))
  refine ⟨c, digits, hcons, ?_⟩
  rintro rfl
  have hcolon : isHex ':' = true :=
    isHex_of_mem_hexadecimal (n := n) (by rw [hexadecimal, hcons]; exact List.mem_cons_self)
  exact absurd hcolon (by decide)

theorem readPieces_piece {p : Pieces} (hsize : p.size < 8) {n : Nat} (hn : n < 65536)
    {rest : List Char} (hrest : EndsPiece rest) :
    readPieces p (hexadecimal n ++ rest) = readPieces (p.push n) rest.tail := by
  have hdigits := takeWhile_piece hn hrest
  have hread := ofDigits_hexadecimal n
  have hdrop : (hexadecimal n ++ rest).drop (hexadecimal n).length = rest := List.drop_left
  obtain ⟨c, digits, hcons, hcolon⟩ := hexadecimal_eq_cons n
  rw [hcons, List.cons_append] at hdigits hdrop
  rw [hcons, List.cons_append, readPieces.eq_def, if_neg (by omega)]
  dsimp only
  split
  · next heq => cases heq
  · next heq => exact absurd (List.cons.inj heq).1 hcolon
  · next heq =>
    cases heq
    rw [hdigits, ← hcons, hread, if_neg (by simp [hcons])]
    -- what stands behind the digits
    split
    · next heq =>
      rw [hcons, hdrop] at heq
      rw [heq, List.tail_nil, readPieces_nil]
    · next more heq =>
      rw [hcons, hdrop] at heq
      rcases hrest with rfl | ⟨d, after, rfl⟩
      · cases heq
      · cases heq
        rfl
    · next heq =>
      rw [hcons, hdrop] at heq
      rcases hrest with rfl | ⟨d, after, rfl⟩ <;> cases heq
    · next hnil hmore _ =>
      rw [hcons, hdrop] at hnil hmore
      rcases hrest with rfl | ⟨d, after, rfl⟩
      · exact absurd rfl hnil
      · exact absurd rfl (hmore _)

theorem readPieces_colon {p : Pieces} (hsize : p.size ≠ 8) (hback : p.back = none)
    (rest : List Char) :
    readPieces p (':' :: rest) = readPieces { p with back := some [] } rest := by
  rw [readPieces, if_neg hsize, hback]

@[simp] theorem Pieces.size_front (front : List Nat) :
    Pieces.size ⟨front, none⟩ = front.length := rfl

theorem Pieces.size_push (p : Pieces) (n : Nat) : (p.push n).size = p.size + 1 := by
  obtain ⟨front, back⟩ := p
  cases back with
  | none => simp [Pieces.push]
  | some back => simp [Pieces.push, Pieces.size, Nat.add_assoc]

/-- Pieces that are taken one after the other stand behind those that were there. -/
theorem foldl_push (p : Pieces) (ns : List Nat) :
    ns.foldl Pieces.push p =
      match p.back with
      | none => ⟨p.front ++ ns, none⟩
      | some back => ⟨p.front, some (back ++ ns)⟩ := by
  induction ns generalizing p with
  | nil =>
    obtain ⟨front, back⟩ := p
    cases back <;> simp
  | cons n more ih =>
    rw [List.foldl_cons, ih]
    obtain ⟨front, back⟩ := p
    cases back <;> simp [Pieces.push]

theorem joinPieces_nil : joinPieces [] = [] := rfl

theorem joinPieces_singleton (n : Nat) : joinPieces [n] = hexadecimal n := by
  simp [joinPieces]

theorem joinPieces_cons_cons (n m : Nat) (more : List Nat) :
    joinPieces (n :: m :: more) = hexadecimal n ++ ':' :: joinPieces (m :: more) := by
  simp [joinPieces, List.intercalate_cons_cons]

theorem joinPieces_eq_cons (n : Nat) (more : List Nat) :
    ∃ c rest, joinPieces (n :: more) = c :: rest ∧ c ≠ ':' := by
  obtain ⟨c, digits, hcons, hcolon⟩ := hexadecimal_eq_cons n
  cases more with
  | nil => exact ⟨c, digits, by rw [joinPieces_singleton, hcons], hcolon⟩
  | cons m more =>
    exact ⟨c, _, by rw [joinPieces_cons_cons, hcons, List.cons_append], hcolon⟩

/-- Joined pieces are read one after the other. -/
theorem readPieces_joinPieces {ns : List Nat} (hne : ns ≠ []) (hbits : ∀ n ∈ ns, n < 65536)
    {p : Pieces} (hsize : p.size + ns.length ≤ 8) {rest : List Char} (hrest : EndsPiece rest) :
    readPieces p (joinPieces ns ++ rest) = readPieces (ns.foldl Pieces.push p) rest.tail := by
  induction ns generalizing p with
  | nil => exact absurd rfl hne
  | cons n more ih =>
    rw [List.forall_mem_cons] at hbits
    rw [List.length_cons] at hsize
    cases more with
    | nil => exact joinPieces_singleton n ▸ readPieces_piece (by omega) hbits.1 hrest
    | cons m more =>
      obtain ⟨c, tail, hcons, -⟩ := joinPieces_eq_cons m more
      have hmore : EndsPiece (':' :: (joinPieces (m :: more) ++ rest)) :=
        .inr ⟨c, tail ++ rest, by rw [hcons, List.cons_append]⟩
      rw [joinPieces_cons_cons, List.append_assoc, List.cons_append,
        readPieces_piece (by omega) hbits.1 hmore, List.tail_cons,
        ih (List.cons_ne_nil m more) hbits.2 (by rw [Pieces.size_push]; omega)]
      rfl

theorem readPieces_joinPieces_end {ns : List Nat} (hbits : ∀ n ∈ ns, n < 65536) {p : Pieces}
    (hsize : p.size + ns.length ≤ 8) :
    readPieces p (joinPieces ns) = some (ns.foldl Pieces.push p) := by
  by_cases hne : ns = []
  · rw [hne, joinPieces_nil, readPieces_nil, List.foldl_nil]
  · have hall := readPieces_joinPieces hne hbits hsize (.inl rfl)
    rwa [List.append_nil, List.tail_nil, readPieces_nil] at hall

/-- The run of zeros that is left out stands where it is said to stand. -/
theorem exists_longestRun (start : Nat) (pieces : List Nat) :
    ∃ front back, (longestRun start pieces).1 = start + front.length ∧
      pieces = front ++ List.replicate (longestRun start pieces).2 0 ++ back := by
  induction pieces generalizing start with
  | nil => exact ⟨[], [], rfl, rfl⟩
  | cons n rest ih =>
    rw [longestRun]
    split
    · refine ⟨[], (n :: rest).dropWhile (· == 0), rfl, ?_⟩
      have hzeros : (n :: rest).takeWhile (· == 0) =
          List.replicate (zeroRun (n :: rest)) 0 := by
        apply List.eq_replicate_iff.mpr
        refine ⟨rfl, ?_⟩
        intro m hm
        exact eq_of_beq (List.mem_takeWhile_imp (p := (· == 0)) hm)
      rw [List.nil_append, ← hzeros, List.takeWhile_append_dropWhile]
    · obtain ⟨front, back, hstart, hrest⟩ := ih (start + 1)
      refine ⟨n :: front, back, ?_, ?_⟩
      · rw [hstart, List.length_cons]
        omega
      · rw [List.cons_append, List.cons_append, ← hrest]

/-- An address is written in full, or without a run of zeros between the pieces before it and
the pieces behind it. -/
theorem ipv6Text_cases (pieces : List Nat) :
    ipv6Text pieces = joinPieces pieces ∨
    ∃ front zeros back, 2 ≤ zeros ∧ pieces = front ++ List.replicate zeros 0 ++ back ∧
      ipv6Text pieces = joinPieces front ++ ':' :: ':' :: joinPieces back := by
  obtain ⟨front, back, hstart, hpieces⟩ := exists_longestRun 0 pieces
  rw [ipv6Text]
  dsimp only
  split
  · exact .inl rfl
  · next hlong =>
    refine .inr ⟨front, (longestRun 0 pieces).2, back, by omega, hpieces, ?_⟩
    rw [hstart, Nat.zero_add]
    generalize (longestRun 0 pieces).2 = zeros at hpieces
    subst hpieces
    have hfront : (front ++ List.replicate zeros 0 ++ back).take front.length = front := by
      rw [List.append_assoc, List.take_left]
    have hback : (front ++ List.replicate zeros 0 ++ back).drop (front.length + zeros) = back := by
      rw [List.drop_left']
      simp
    rw [hfront, hback]

theorem ipv6?_of_readPieces {c : Char} (hc : c ≠ ':') {rest : List Char} {p : Pieces}
    {pieces : List Nat} (hread : readPieces ⟨[], none⟩ (c :: rest) = some p)
    (hfull : p.full? = some pieces) : ipv6? (c :: rest) = .ok pieces := by
  rw [ipv6?.eq_def]
  split
  · next heq => exact absurd (List.cons.inj heq).1 hc
  · next heq => exact absurd (List.cons.inj heq).1 hc
  · next heq => cases heq
  · simp only [hread, Option.bind_some, hfull]

theorem ipv6?_joinPieces {pieces : List Nat} (h : IsAddress pieces) :
    ipv6? (joinPieces pieces) = .ok pieces := by
  have hread : readPieces ⟨[], none⟩ (joinPieces pieces) = some ⟨pieces, none⟩ := by
    rw [readPieces_joinPieces_end h.bits (by simp [h.length]), foldl_push]
    rfl
  have hfull : Pieces.full? ⟨pieces, none⟩ = some pieces := if_pos h.length
  cases pieces with
  | nil => cases h.length
  | cons n more =>
    obtain ⟨c, rest, hcons, hc⟩ := joinPieces_eq_cons n more
    rw [hcons] at hread ⊢
    exact ipv6?_of_readPieces hc hread hfull

theorem ipv6?_gap {front back : List Nat} {zeros : Nat} (hzeros : 2 ≤ zeros)
    (h : IsAddress (front ++ List.replicate zeros 0 ++ back)) :
    ipv6? (joinPieces front ++ ':' :: ':' :: joinPieces back) =
      .ok (front ++ List.replicate zeros 0 ++ back) := by
  have hlength := h.length
  have hbits := h.bits
  simp only [List.length_append, List.length_replicate] at hlength
  simp only [List.forall_mem_append] at hbits
  have hsize : front.length + 1 + back.length ≤ 8 := by omega
  have hback : readPieces ⟨front, some []⟩ (joinPieces back) = some ⟨front, some back⟩ := by
    rw [readPieces_joinPieces_end hbits.2 (by simpa [Pieces.size] using hsize), foldl_push]
    rfl
  have hfull : Pieces.full? ⟨front, some back⟩ =
      some (front ++ List.replicate zeros 0 ++ back) := by
    have hgap : 8 - front.length - back.length = zeros := by omega
    rw [← hgap]
    exact if_pos hsize
  cases front with
  | nil =>
    rw [joinPieces_nil, List.nil_append, ipv6?.eq_def]
    simp only [hback, Option.bind_some, hfull]
  | cons n more =>
    have hempty : Pieces.size ⟨[], none⟩ + (n :: more).length ≤ 8 := by
      rw [Pieces.size_front, List.length_nil]
      omega
    have hopen : Pieces.size ⟨n :: more, none⟩ ≠ 8 := by
      rw [Pieces.size_front]
      omega
    have hread : readPieces ⟨[], none⟩ (joinPieces (n :: more) ++ ':' :: ':' :: joinPieces back) =
        some ⟨n :: more, some back⟩ := by
      rw [readPieces_joinPieces (List.cons_ne_nil n more) hbits.1.1 hempty
        (.inr ⟨':', joinPieces back, rfl⟩), foldl_push]
      exact (readPieces_colon hopen rfl _).trans hback
    obtain ⟨c, rest, hcons, hc⟩ := joinPieces_eq_cons n more
    rw [hcons] at hread ⊢
    exact ipv6?_of_readPieces hc hread hfull

/-- An address is read back as it is written. -/
theorem ipv6?_ipv6Text {pieces : List Nat} (h : IsAddress pieces) :
    ipv6? (ipv6Text pieces) = .ok pieces := by
  rcases ipv6Text_cases pieces with hfull | ⟨front, zeros, back, hzeros, rfl, hgap⟩
  · rw [hfull]
    exact ipv6?_joinPieces h
  · rw [hgap]
    exact ipv6?_gap hzeros h

end Writing

end ServerLogin.Url
