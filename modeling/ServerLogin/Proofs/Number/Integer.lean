import Mathlib.Data.List.Basic
import ServerLogin.Number.Integer

/-!
Whole numbers are read back as they are written.
-/

namespace ServerLogin.Number

open ServerLogin.Text

theorem isDigit_of_mem_decimal {n : Nat} {c : Char} (h : c ∈ decimal n) : c.isDigit = true :=
  Nat.isDigit_of_mem_toDigits (by decide) (by decide) h

theorem decimal_eq_cons (n : Nat) : ∃ c rest, decimal n = c :: rest ∧ c.isDigit = true := by
  obtain ⟨c, rest, h⟩ := List.exists_cons_of_ne_nil (Nat.toDigits_ne_nil (b := 10) (n := n))
  exact ⟨c, rest, h, isDigit_of_mem_decimal (n := n) (by rw [decimal, h]; simp)⟩

theorem ne_of_isDigit {c d : Char} (hc : c.isDigit = true) (hd : d.isDigit = false) : c ≠ d := by
  rintro rfl
  rw [hc] at hd
  cases hd

theorem digitValue_of_isDigit {c : Char} (h : c.isDigit = true) :
    digitValue c = some (c.toNat - '0'.toNat) ∧ c.toNat - '0'.toNat < 10 := by
  simp only [Char.isDigit, Bool.and_eq_true, decide_eq_true_eq] at h
  have hlow : '0'.toNat ≤ c.toNat := h.1
  have hhigh : c.toNat ≤ '9'.toNat := h.2
  have hzero : '0'.toNat = 48 := rfl
  have hnine : '9'.toNat = 57 := rfl
  exact ⟨if_pos ⟨hlow, hhigh⟩, by omega⟩

theorem ofDigits_decimal (n : Nat) : ofDigits 10 (decimal n) = n := by
  have hread : Nat.ofDigitChars 10 (decimal n) 0 = n :=
    Nat.ofDigitChars_toDigits (by decide) (by decide)
  refine Eq.trans ?_ hread
  apply List.foldl_ext
  intro value c hc
  rw [(digitValue_of_isDigit (isDigit_of_mem_decimal hc)).1, Option.getD_some]

theorem head?_decimal_ne {n : Nat} (h : 0 < n) : (decimal n).head? ≠ some '0' := by
  induction n using Nat.strongRecOn with
  | ind n ih =>
    by_cases hn : n < 10
    · rw [decimal, Nat.toDigits_of_lt_base hn]
      exact (by decide : ∀ d : Fin 10, 0 < d.val → [Nat.digitChar d].head? ≠ some '0') ⟨n, hn⟩ h
    · have hfirst := ih (n / 10) (by omega) (by omega)
      obtain ⟨c, rest, hcons, _⟩ := decimal_eq_cons (n / 10)
      rw [decimal, Nat.toDigits_of_base_le (by decide) (by omega)]
      rw [decimal] at hcons hfirst
      rw [hcons] at hfirst ⊢
      exact hfirst

theorem decimal_cases (n : Nat) :
    decimal n = ['0'] ∨ ∃ c rest, decimal n = c :: rest ∧ c.isDigit = true ∧ c ≠ '0' := by
  obtain ⟨c, rest, hcons, hdigit⟩ := decimal_eq_cons n
  rcases Nat.eq_zero_or_pos n with rfl | hpos
  · exact .inl rfl
  · refine .inr ⟨c, rest, hcons, hdigit, ?_⟩
    rintro rfl
    exact head?_decimal_ne hpos (by rw [hcons]; rfl)

theorem unsigned?_decimal {limit n : Nat} (h : n < limit) :
    unsigned? limit (decimal n) = some n := by
  obtain ⟨c, rest, hcons, hdigit⟩ := decimal_eq_cons n
  have hplus : c ≠ '+' := ne_of_isDigit hdigit (by decide)
  have hread := natural?_decimal n
  rw [hcons] at hread ⊢
  rw [unsigned?.eq_def]
  split
  · next heq => exact absurd (List.cons.inj heq).1 hplus
  · rw [hread, Option.filter_some, if_pos (by simpa using h)]

theorem uint16?_decimal (port : UInt16) : uint16? (decimal port.toNat) = some port := by
  rw [uint16?, unsigned?_decimal port.toNat_lt, Option.map_some, UInt16.ofNat_toNat]

theorem int64OfInt?_toInt (n : Int64) : int64OfInt? n.toInt = some n := by
  have hlow := n.le_toInt
  have hhigh := n.toInt_lt
  rw [int64OfInt?, if_pos (by omega), Int64.ofInt_toInt]

theorem int64?_integerText (n : Int64) : int64? (integerText n.toInt).toList = some n := by
  have hread := natural?_decimal n.toInt.natAbs
  rw [integerText, String.toList_ofList]
  split
  · next hneg =>
    have habs : -(n.toInt.natAbs : Int) = n.toInt := by omega
    rw [int64?, hread, Option.bind_some, habs, int64OfInt?_toInt]
  · next hpos =>
    have habs : (n.toInt.natAbs : Int) = n.toInt := by omega
    obtain ⟨c, rest, hcons, hdigit⟩ := decimal_eq_cons n.toInt.natAbs
    rw [hcons] at hread ⊢
    rw [int64?.eq_def]
    split
    · next heq => exact absurd (List.cons.inj heq).1 (ne_of_isDigit hdigit (by decide))
    · next heq => exact absurd (List.cons.inj heq).1 (ne_of_isDigit hdigit (by decide))
    · rw [hread, Option.bind_some, habs, int64OfInt?_toInt]

end ServerLogin.Number
