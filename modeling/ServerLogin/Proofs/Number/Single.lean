import Mathlib.Algebra.Order.Field.Power
import Mathlib.Data.Rat.Cast.Order
import Mathlib.Tactic.NormNum
import Mathlib.Tactic.Ring
import ServerLogin.Number.Single

/-!
What floating-point numbers stand for, as fractions.  The numbers of a format grow with
their codes, so that comparing codes compares numbers.
-/

namespace ServerLogin.Number

namespace BinaryFormat

variable (f : BinaryFormat)

def fraction (number : Nat × Int) : ℚ := number.1 * 2 ^ number.2

def value (code : Nat) : ℚ := fraction (f.decode code)

/-- How many codes share an exponent. -/
def perExponent : Nat := twoTo (f.precision - 1)

theorem perExponent_pos : 0 < f.perExponent := Nat.pow_pos Nat.two_pos

theorem value_of_lt {code : Nat} (h : code < f.perExponent) :
    f.value code = fraction (code, f.leastExponent) := by
  unfold perExponent at h
  rw [value, decode, if_pos h]

theorem value_of_exponent (q : Nat) {r : Nat} (hr : r < f.perExponent) :
    f.value (f.perExponent * (q + 1) + r) =
      fraction (f.perExponent + r, f.leastExponent + q) := by
  have hfull : ¬f.perExponent * (q + 1) + r < f.perExponent := by
    rw [Nat.mul_add, Nat.mul_one]
    omega
  have hmod : (f.perExponent * (q + 1) + r) % f.perExponent = r := by
    rw [Nat.mul_add_mod, Nat.mod_eq_of_lt hr]
  have hdiv : (f.perExponent * (q + 1) + r) / f.perExponent = q + 1 := by
    rw [Nat.mul_add_div f.perExponent_pos, Nat.div_eq_of_lt hr, Nat.add_zero]
  unfold perExponent at hfull hmod hdiv ⊢
  rw [value, decode, if_neg hfull, hmod, hdiv, Nat.cast_succ, ← add_assoc, add_sub_cancel_right]

@[simp] theorem value_zero : f.value 0 = 0 := by
  rw [f.value_of_lt f.perExponent_pos, fraction, Nat.cast_zero, zero_mul]

theorem fraction_lt_of_lt {m n : Nat} (h : m < n) (q : Int) : fraction (m, q) < fraction (n, q) :=
  mul_lt_mul_of_pos_right (Nat.cast_lt.mpr h) (zpow_pos two_pos q)

/-- A significand that is twice as large counts as much as the next exponent. -/
theorem fraction_succ (m : Nat) (q : Int) : fraction (m, q + 1) = fraction (2 * m, q) := by
  rw [fraction, fraction, zpow_add_one₀ two_ne_zero, Nat.cast_mul, Nat.cast_ofNat]
  ring

/-- The next code stands for a larger number.  The cases are those of the exponent: the
least one or another, and whether the code is the last one that has it. -/
theorem value_lt_value_succ (code : Nat) : f.value code < f.value (code + 1) := by
  have hr : code % f.perExponent < f.perExponent := Nat.mod_lt code f.perExponent_pos
  have hsplit := Nat.div_add_mod code f.perExponent
  generalize code % f.perExponent = r at hr hsplit
  generalize code / f.perExponent = exponent at hsplit
  subst hsplit
  have hfirst : f.perExponent * exponent + f.perExponent =
      f.perExponent * (exponent + 1) + 0 := rfl
  by_cases hlast : r + 1 = f.perExponent
  · rw [Nat.add_assoc, hlast, hfirst, f.value_of_exponent exponent f.perExponent_pos]
    cases exponent with
    | zero =>
      rw [Nat.mul_zero, Nat.zero_add, f.value_of_lt hr, Nat.add_zero, Nat.cast_zero, Int.add_zero]
      exact fraction_lt_of_lt (by omega) _
    | succ q =>
      rw [f.value_of_exponent q hr, Nat.cast_succ, ← add_assoc, fraction_succ]
      exact fraction_lt_of_lt (by omega) _
  · have hnext : r + 1 < f.perExponent := by omega
    rw [Nat.add_assoc]
    cases exponent with
    | zero =>
      rw [Nat.mul_zero, Nat.zero_add, Nat.zero_add, f.value_of_lt hr, f.value_of_lt hnext]
      exact fraction_lt_of_lt (Nat.lt_succ_self r) _
    | succ q =>
      rw [f.value_of_exponent q hr, f.value_of_exponent q hnext]
      exact fraction_lt_of_lt (by omega) _

theorem value_strictMono : StrictMono f.value := strictMono_nat_of_lt_succ f.value_lt_value_succ

end BinaryFormat

namespace Single

/-- The fraction that a number stands for, if it is finite. -/
def value? : Single → Option ℚ
  | .finite negative code => some (if negative then -single.value code else single.value code)
  | _ => none

theorem value_one : single.value 0x3F800000 = 1 := by
  have hcode : 0x3F800000 = single.perExponent * (126 + 1) + 0 := by decide
  rw [hcode, single.value_of_exponent 126 single.perExponent_pos, BinaryFormat.fraction]
  norm_num [single, BinaryFormat.perExponent, twoTo]

theorem value_nonneg (code : Nat) : 0 ≤ single.value code := by
  rw [← single.value_zero]
  exact single.value_strictMono.monotone (Nat.zero_le code)

/-- A number lies in the unit interval if it is finite and between zero and one. -/
theorem inUnitInterval_iff (x : Single) :
    x.inUnitInterval = true ↔ ∃ q, x.value? = some q ∧ 0 ≤ q ∧ q ≤ 1 := by
  cases x with
  | nan => exact ⟨nofun, nofun⟩
  | infinity negative => exact ⟨nofun, nofun⟩
  | finite negative code =>
    have hunit : (finite negative code).inUnitInterval = true ↔
        code.val = 0 ∨ negative = false ∧ code.val ≤ 0x3F800000 := by
      simp only [inUnitInterval, Bool.or_eq_true, Bool.and_eq_true, decide_eq_true_eq,
        Bool.not_eq_true']
    have hzero : code.val = 0 ↔ single.value code = 0 := by
      rw [← single.value_zero]
      exact single.value_strictMono.injective.eq_iff.symm
    have hone : code.val ≤ 0x3F800000 ↔ single.value code ≤ 1 := by
      rw [← value_one]
      exact single.value_strictMono.le_iff_le.symm
    have hnonneg := value_nonneg code
    rw [hunit, hzero, hone]
    cases negative with
    | false =>
      constructor
      · rintro (h | ⟨_, h⟩)
        · exact ⟨_, rfl, hnonneg, h.le.trans zero_le_one⟩
        · exact ⟨_, rfl, hnonneg, h⟩
      · rintro ⟨q, hq, _, h⟩
        cases hq
        exact .inr ⟨rfl, h⟩
    | true =>
      constructor
      · rintro (h | ⟨hsign, _⟩)
        · exact ⟨_, rfl, neg_nonneg.mpr h.le, (neg_nonpos.mpr hnonneg).trans zero_le_one⟩
        · cases hsign
      · rintro ⟨q, hq, h, _⟩
        cases hq
        exact .inl (le_antisymm (neg_nonneg.mp h) hnonneg)

end Single
end ServerLogin.Number
