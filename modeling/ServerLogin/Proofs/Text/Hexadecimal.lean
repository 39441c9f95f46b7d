import Mathlib.Algebra.Group.Nat.Defs
import ServerLogin.Text.Digit

/-!
Hexadecimal digits are read back, in either case and with zeros in front.
-/

namespace ServerLogin.Text

/-- The hexadecimal digits of a number, in capitals. -/
def capitalDigits (n : Nat) : List Char := (hexadecimal n).map upperAscii

theorem ofDigits_concat (base : Nat) (cs : List Char) (c : Char) :
    ofDigits base (cs ++ [c]) = base * ofDigits base cs + (digitValue c).getD 0 :=
  List.foldl_append ..

theorem ofDigits_zeros (base n : Nat) (cs : List Char) :
    ofDigits base (List.replicate n '0' ++ cs) = ofDigits base cs := by
  induction n with
  | zero => rfl
  | succ n ih =>
    rw [List.replicate_succ, List.cons_append, ← ih, ofDigits, List.foldl_cons,
      show base * 0 + (digitValue '0').getD 0 = 0 by rw [Nat.mul_zero]; rfl]
    rfl

theorem value_lt_of_isDigitIn {base : Nat} {c : Char} (h : isDigitIn base c = true) :
    (digitValue c).getD 0 < base := by
  rw [isDigitIn] at h
  cases hvalue : digitValue c with
  | none =>
    rw [hvalue] at h
    cases h
  | some d =>
    rw [hvalue] at h
    exact of_decide_eq_true h

/-- A run of digits spells a number below the power of the base for its length. -/
theorem ofDigits_lt {base : Nat} {cs : List Char} (h : ∀ c ∈ cs, isDigitIn base c = true) :
    ofDigits base cs < base ^ cs.length := by
  -- in the induction, digits have been read before
  have hfrom : ∀ cs : List Char, (∀ c ∈ cs, isDigitIn base c = true) → ∀ n,
      cs.foldl (fun n c => base * n + (digitValue c).getD 0) n < (n + 1) * base ^ cs.length := by
    intro cs
    induction cs with
    | nil => simp
    | cons c rest ih =>
      intro hdigits n
      rw [List.forall_mem_cons] at hdigits
      have hvalue := value_lt_of_isDigitIn hdigits.1
      have hstep : base * n + (digitValue c).getD 0 + 1 ≤ (n + 1) * base := by
        rw [Nat.add_mul, Nat.mul_comm]
        omega
      calc (c :: rest).foldl (fun n c => base * n + (digitValue c).getD 0) n
          < (base * n + (digitValue c).getD 0 + 1) * base ^ rest.length := ih hdigits.2 _
        _ ≤ (n + 1) * base * base ^ rest.length := Nat.mul_le_mul_right _ hstep
        _ = (n + 1) * base ^ (c :: rest).length := by
          rw [List.length_cons, Nat.pow_succ, Nat.mul_assoc, Nat.mul_comm base]
  have hlt := hfrom cs h 0
  rwa [Nat.zero_add, Nat.one_mul] at hlt

/-- The last digit of a number, and the digits before it. -/
theorem hexadecimal_of_le {n : Nat} (h : 16 ≤ n) :
    hexadecimal n = hexadecimal (n / 16) ++ [Nat.digitChar (n % 16)] :=
  Nat.toDigits_of_base_le (by decide) h

theorem hexadecimal_of_lt {n : Nat} (h : n < 16) : hexadecimal n = [Nat.digitChar n] :=
  Nat.toDigits_of_lt_base h

theorem exists_of_mem_hexadecimal {n : Nat} {c : Char} (h : c ∈ hexadecimal n) :
    ∃ d < 16, c = Nat.digitChar d := by
  induction n using Nat.strongRecOn with
  | ind n ih =>
    by_cases hn : n < 16
    · rw [hexadecimal_of_lt hn, List.mem_singleton] at h
      exact ⟨n, hn, h⟩
    · rw [hexadecimal_of_le (by omega), List.mem_append, List.mem_singleton] at h
      rcases h with h | rfl
      · exact ih (n / 16) (by omega) h
      · exact ⟨n % 16, Nat.mod_lt n (by decide), rfl⟩

section Written

-- Digits may be written in another way, as long as they keep their values.
variable (write : Char → Char)
  (hwrite : ∀ d : Fin 16, digitValue (write (Nat.digitChar d)) = some d.val)
include hwrite

theorem ofDigits_map_hexadecimal (n : Nat) : ofDigits 16 ((hexadecimal n).map write) = n := by
  induction n using Nat.strongRecOn with
  | ind n ih =>
    by_cases h : n < 16
    · rw [hexadecimal_of_lt h, List.map_singleton, ← List.nil_append [_], ofDigits_concat,
        hwrite ⟨n, h⟩]
      exact Nat.zero_add n
    · rw [hexadecimal_of_le (by omega), List.map_append, List.map_singleton, ofDigits_concat,
        ih (n / 16) (by omega), hwrite ⟨n % 16, Nat.mod_lt n (by decide)⟩]
      exact Nat.div_add_mod n 16

theorem isHex_of_mem_map_hexadecimal {n : Nat} {c : Char} (h : c ∈ (hexadecimal n).map write) :
    isHex c = true := by
  obtain ⟨_, hmem, rfl⟩ := List.mem_map.mp h
  obtain ⟨d, hd, rfl⟩ := exists_of_mem_hexadecimal hmem
  rw [isHex, isDigitIn, hwrite ⟨d, hd⟩]
  exact decide_eq_true hd

end Written

theorem ofDigits_hexadecimal (n : Nat) : ofDigits 16 (hexadecimal n) = n := by
  simpa using ofDigits_map_hexadecimal id (by decide) n

theorem ofDigits_capitalDigits (n : Nat) : ofDigits 16 (capitalDigits n) = n :=
  ofDigits_map_hexadecimal upperAscii (by decide) n

theorem isHex_of_mem_hexadecimal {n : Nat} {c : Char} (h : c ∈ hexadecimal n) :
    isHex c = true :=
  isHex_of_mem_map_hexadecimal id (by decide) (by simpa using h)

theorem isHex_of_mem_capitalDigits {n : Nat} {c : Char} (h : c ∈ capitalDigits n) :
    isHex c = true :=
  isHex_of_mem_map_hexadecimal upperAscii (by decide) h

theorem length_hexadecimal_le {n k : Nat} (hk : 0 < k) (h : n < 16 ^ k) :
    (hexadecimal n).length ≤ k :=
  (Nat.length_toDigits_le_iff (by decide) hk).mpr h

theorem length_capitalDigits_le {n k : Nat} (hk : 0 < k) (h : n < 16 ^ k) :
    (capitalDigits n).length ≤ k := by
  rw [capitalDigits, List.length_map]
  exact length_hexadecimal_le hk h

end ServerLogin.Text
