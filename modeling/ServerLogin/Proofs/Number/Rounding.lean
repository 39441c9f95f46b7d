import Mathlib.Tactic.FieldSimp
import Mathlib.Tactic.Linarith
import ServerLogin.Proofs.Number.Single

/-!
Rounding to the nearest number of a format.  `Rounds` says of a fraction and a code that the
fraction lies between the middles to both neighbours, where the middle itself belongs to the even
code.  A fraction rounds to one code at most, and `round?` finds it.
-/

namespace ServerLogin.Number

/-- A whole number nearest to a fraction; a half goes to the even one. -/
structure IsNearest (y : ℚ) (n : Nat) : Prop where
  above : 2 * y ≤ 2 * n + 1
  evenAbove : 2 * y = 2 * n + 1 → n % 2 = 0
  below : 2 * n ≤ 2 * y + 1
  evenBelow : 2 * (n : ℚ) = 2 * y + 1 → n % 2 = 0

@[simp] theorem cast_twoTo (k : Nat) : (twoTo k : ℚ) = 2 ^ k := Nat.cast_pow 2 k

@[simp] theorem cast_tenTo (k : Nat) : (tenTo k : ℚ) = 10 ^ k := Nat.cast_pow 10 k

/-- A power of two that is given by a whole number of either sign. -/
theorem two_zpow_of_nonneg {q : Int} (h : 0 ≤ q) : (2 : ℚ) ^ q = 2 ^ q.toNat := by
  obtain ⟨n, rfl⟩ := Int.eq_ofNat_of_zero_le h
  rw [zpow_natCast, Int.toNat_natCast]

theorem twoTo_pos (k : Nat) : 0 < twoTo k := Nat.pow_pos Nat.two_pos

namespace BinaryFormat

theorem isNearest_nearest (num : Nat) {den : Nat} (hden : 0 < den) :
    IsNearest (num / den) (nearest num den) := by
  have hpos : (0 : ℚ) < den := Nat.cast_pos.mpr hden
  have hsplit := Nat.div_add_mod num den
  have hrest := Nat.mod_lt num hden
  generalize hwhole : num / den = whole at hsplit
  generalize hmod : num % den = rest at hsplit hrest
  have hfraction : (num : ℚ) / den = whole + rest / den := by
    rw [← hsplit, Nat.cast_add, Nat.cast_mul]
    field_simp
  have hscale : ∀ {a b : Nat}, a ≤ b → (a : ℚ) / den ≤ b / den := fun hle =>
    div_le_div_of_nonneg_right (Nat.cast_le.mpr hle) hpos.le
  have hstrict : ∀ {a b : Nat}, a < b → (a : ℚ) / den < b / den := fun hlt =>
    div_lt_div_of_pos_right (Nat.cast_lt.mpr hlt) hpos
  have hone : (den : ℚ) / den = 1 := div_self hpos.ne'
  have htwice : ((2 * rest : Nat) : ℚ) / den = 2 * (rest / den) := by
    push_cast
    ring
  have hnonneg : (0 : ℚ) ≤ rest / den := div_nonneg (Nat.cast_nonneg rest) hpos.le
  have hbelow := hstrict hrest
  rw [hone] at hbelow
  rw [hfraction, nearest, hwhole, hmod]
  split
  · next hless =>
    have hhalf := hstrict hless
    rw [htwice, hone] at hhalf
    constructor <;> intros <;> linarith
  · next hless =>
    split
    · next hmore =>
      have hhalf := hstrict hmore
      rw [htwice, hone] at hhalf
      constructor <;> push_cast <;> intros <;> linarith
    · next hmore =>
      have hhalf : 2 * ((rest : ℚ) / den) = 1 := by
        rw [← htwice, Nat.le_antisymm (Nat.le_of_not_lt hmore) (Nat.le_of_not_lt hless), hone]
      rcases Nat.mod_two_eq_zero_or_one whole with heven | hodd
      · rw [heven, Nat.add_zero]
        constructor <;> intros <;> first | exact heven | linarith
      · have hnext : (whole + 1) % 2 = 0 := by omega
        rw [hodd]
        constructor <;> push_cast <;> intros <;> first | exact hnext | linarith

variable (f : BinaryFormat)

/-- A fraction rounds to a code: it lies between the middles to the codes around, and a middle
itself goes to the even code. -/
structure Rounds (x : ℚ) (code : Nat) : Prop where
  above : 2 * x ≤ f.value code + f.value (code + 1)
  evenAbove : 2 * x = f.value code + f.value (code + 1) → code % 2 = 0
  below : ∀ less, code = less + 1 → f.value less + f.value code ≤ 2 * x
  evenBelow : ∀ less, code = less + 1 → f.value less + f.value code = 2 * x → code % 2 = 0

variable {f}

theorem Rounds.le {x : ℚ} {a b : Nat} (ha : f.Rounds x a) (hb : f.Rounds x b) : a ≤ b := by
  by_contra hlt
  obtain ⟨less, rfl⟩ : ∃ less, a = less + 1 := ⟨a - 1, by omega⟩
  have hless : b ≤ less := by omega
  have hlow : f.value b ≤ f.value less := f.value_strictMono.monotone hless
  have hhigh : f.value (b + 1) ≤ f.value (less + 1) :=
    f.value_strictMono.monotone (Nat.add_le_add_right hless 1)
  have habove := hb.above
  have hbelow := ha.below less rfl
  -- the fraction is the middle between two neighbours, which would both be even
  have hsame : f.value b = f.value less := by linarith
  obtain rfl := f.value_strictMono.injective hsame
  have hevenAbove := hb.evenAbove (by linarith)
  have hevenBelow := ha.evenBelow b rfl (by linarith)
  omega

theorem Rounds.unique {x : ℚ} {a b : Nat} (ha : f.Rounds x a) (hb : f.Rounds x b) : a = b :=
  Nat.le_antisymm (ha.le hb) (hb.le ha)

theorem perExponent_even (hprecision : 2 ≤ f.precision) : f.perExponent % 2 = 0 := by
  have hsplit : f.precision - 1 = (f.precision - 2) + 1 := by omega
  rw [perExponent, twoTo, hsplit]
  change 2 ^ (f.precision - 2 + 1) % 2 = 0
  rw [Nat.pow_succ, Nat.mul_mod_left]

/-- A significand that is full, unless the exponent is the least one, gives the number whose code
counts all that come before. -/
theorem value_scaled {j n : Nat} (hfull : j = 0 ∨ f.perExponent ≤ n)
    (hn : n ≤ 2 * f.perExponent) :
    f.value (j * f.perExponent + n) = n * 2 ^ (f.leastExponent + j) := by
  have hpos := f.perExponent_pos
  by_cases hlow : n < f.perExponent
  · obtain rfl : j = 0 := by omega
    rw [Nat.zero_mul, Nat.zero_add, f.value_of_lt hlow, fraction]
    simp
  · obtain ⟨r, rfl⟩ := Nat.exists_eq_add_of_le (Nat.le_of_not_lt hlow)
    rcases Nat.lt_or_ge r f.perExponent with hr | hr
    · have hcode : j * f.perExponent + (f.perExponent + r) = f.perExponent * (j + 1) + r := by ring
      rw [hcode, f.value_of_exponent j hr, fraction]
    · obtain rfl : r = f.perExponent := by omega
      have hcode : j * f.perExponent + (f.perExponent + f.perExponent) =
          f.perExponent * (j + 1 + 1) + 0 := by ring
      rw [hcode, f.value_of_exponent (j + 1) hpos, fraction, Nat.cast_succ, ← add_assoc,
        zpow_add_one₀ two_ne_zero]
      push_cast
      ring

/-- The fraction with a full significand rounds to the code that counts all that come before. -/
theorem rounds_scaled (hprecision : 2 ≤ f.precision) {j n : Nat} {y : ℚ} (hy : IsNearest y n)
    (hfull : j = 0 ∨ (f.perExponent : ℚ) ≤ y) (hsmall : y < 2 * f.perExponent) :
    f.Rounds (y * 2 ^ (f.leastExponent + j)) (j * f.perExponent + n) := by
  have hpos := f.perExponent_pos
  have heven := f.perExponent_even hprecision
  have hunit : (0 : ℚ) < 2 ^ (f.leastExponent + j) := zpow_pos two_pos _
  generalize hscale : (2 : ℚ) ^ (f.leastExponent + j) = unit at hunit
  have habove := hy.above
  have hbelow := hy.below
  have hle : n ≤ 2 * f.perExponent := by
    have : (n : ℚ) < 2 * f.perExponent + 1 := by linarith
    have hlt : n < 2 * f.perExponent + 1 := by exact_mod_cast this
    omega
  have hge : j = 0 ∨ f.perExponent ≤ n := by
    rcases hfull with hj | hfull
    · exact .inl hj
    · right
      have : (f.perExponent : ℚ) < n + 1 := by linarith
      have hlt : f.perExponent < n + 1 := by exact_mod_cast this
      omega
  have hcode : f.value (j * f.perExponent + n) = n * unit := by
    rw [value_scaled hge hle, hscale]
  have hparity : (j * f.perExponent + n) % 2 = n % 2 := by
    rw [Nat.add_mod, Nat.mul_mod, heven, Nat.mul_zero, Nat.zero_mod, Nat.zero_add, Nat.mod_mod]
  have hcancel : ∀ {a b : ℚ}, a * unit = b * unit → a = b := fun h =>
    mul_right_cancel₀ hunit.ne' h
  -- the next code is the next significand, unless the significand is the last one
  have hnext : f.value (j * f.perExponent + n + 1) = (n + 1) * unit ∨
      2 * (y * unit) < n * unit + f.value (j * f.perExponent + n + 1) := by
    rcases Nat.lt_or_ge n (2 * f.perExponent) with hlt | hlast
    · left
      rw [Nat.add_assoc, value_scaled (by omega) hlt, hscale, Nat.cast_succ]
    · right
      have hstep := f.value_lt_value_succ (j * f.perExponent + n)
      have hlast : (2 : ℚ) * f.perExponent ≤ n := by exact_mod_cast hlast
      have hless : y * unit < n * unit := mul_lt_mul_of_pos_right (by linarith) hunit
      linarith
  -- the code before is the significand before, unless the significand is the first full one
  have hlast : ∀ less, j * f.perExponent + n = less + 1 → f.value less = (n - 1) * unit ∨
      f.value less + n * unit < 2 * (y * unit) := by
    intro less hless
    by_cases hfirst : j = 0 ∨ f.perExponent < n
    · left
      obtain ⟨m, rfl⟩ : ∃ m, n = m + 1 := ⟨n - 1, by rcases hfirst with rfl | h <;> omega⟩
      obtain rfl : less = j * f.perExponent + m := by omega
      rw [value_scaled (by omega) (by omega), hscale, Nat.cast_succ, add_sub_cancel_right]
    · right
      rw [not_or] at hfirst
      have hstep := f.value_lt_value_succ less
      rw [← hless, hcode] at hstep
      have hn : (n : ℚ) ≤ y := by
        obtain rfl : n = f.perExponent := by omega
        exact hfull.resolve_left hfirst.1
      have hle : n * unit ≤ y * unit := mul_le_mul_of_nonneg_right hn hunit.le
      linarith
  constructor
  · rw [hcode]
    rcases hnext with hnext | hnext
    · have hle := mul_le_mul_of_nonneg_right habove hunit.le
      rw [hnext]
      linarith
    · exact hnext.le
  · intro heq
    rw [hcode] at heq
    rcases hnext with hnext | hnext
    · rw [hparity]
      rw [hnext] at heq
      exact hy.evenAbove (hcancel (by linarith))
    · exact absurd heq hnext.ne
  · intro less hless
    rw [hcode]
    rcases hlast less hless with hlast | hlast
    · have hle := mul_le_mul_of_nonneg_right hbelow hunit.le
      rw [hlast]
      linarith
    · exact hlast.le
  · intro less hless heq
    rw [hcode] at heq
    rcases hlast less hless with hlast | hlast
    · rw [hparity]
      rw [hlast] at heq
      exact hy.evenBelow (hcancel (by linarith))
    · exact absurd heq hlast.ne

theorem scale_pos {num den : Nat} (hden : 0 < den) (q : Int) : 0 < (scale num den q).2 := by
  unfold scale
  split
  · exact hden
  · exact Nat.mul_pos hden (twoTo_pos _)

theorem scale_eq (num den : Nat) (q : Int) :
    ((scale num den q).1 : ℚ) / (scale num den q).2 = num / den * 2 ^ q := by
  unfold scale
  split
  · next hq =>
    rw [two_zpow_of_nonneg hq]
    push_cast
    rw [cast_twoTo]
    ring
  · next hq =>
    have hneg : (2 : ℚ) ^ q = (2 ^ (-q).toNat)⁻¹ := by
      rw [← two_zpow_of_nonneg (by omega), zpow_neg, inv_inv]
    push_cast
    rw [cast_twoTo, hneg, div_mul_eq_div_mul_one_div, one_div]

variable (f) in
/-- The exponent at which a fraction is rounded: the least one that leaves no more than a full
significand. -/
def exponentOf (num den : Nat) : Int :=
  let low := max ((Nat.log2 num : Int) - Nat.log2 den - f.precision) f.leastExponent
  if (scale num den (-low)).1 / (scale num den (-low)).2 < twoTo f.precision then low else low + 1

theorem round?_of_ne_zero {num : Nat} (h : num ≠ 0) (den : Nat) :
    f.round? num den =
      let (n, d) := scale num den (-f.exponentOf num den)
      let code := (f.exponentOf num den - f.leastExponent).toNat * f.perExponent + nearest n d
      if code < f.size then some code else none := by
  rw [round?, if_neg h]
  rfl

/-- A fraction lies between the powers of two that its parts have. -/
theorem fraction_bounds {num den : Nat} (hnum : num ≠ 0) (hden : den ≠ 0) :
    (2 : ℚ) ^ ((Nat.log2 num : Int) - Nat.log2 den - 1) ≤ num / den ∧
      (num : ℚ) / den < 2 ^ ((Nat.log2 num : Int) - Nat.log2 den + 1) := by
  have hcast : ∀ {a b : Nat}, a ≤ b → (a : ℚ) ≤ b := fun h => Nat.cast_le.mpr h
  have hpos : (0 : ℚ) < den := Nat.cast_pos.mpr (Nat.pos_of_ne_zero hden)
  have hnumLow := hcast (Nat.log2_self_le hnum)
  have hnumHigh : (num : ℚ) < ((2 ^ (num.log2 + 1) : Nat) : ℚ) := Nat.cast_lt.mpr Nat.lt_log2_self
  have hdenLow := hcast (Nat.log2_self_le hden)
  have hdenHigh : (den : ℚ) < ((2 ^ (den.log2 + 1) : Nat) : ℚ) := Nat.cast_lt.mpr Nat.lt_log2_self
  generalize Nat.log2 num = a at hnumLow hnumHigh
  generalize Nat.log2 den = b at hdenLow hdenHigh
  push_cast at hnumLow hnumHigh hdenLow hdenHigh
  constructor
  · rw [le_div_iff₀ hpos]
    calc (2 : ℚ) ^ ((a : Int) - b - 1) * den
        ≤ 2 ^ ((a : Int) - b - 1) * 2 ^ (b + 1) :=
          mul_le_mul_of_nonneg_left hdenHigh.le (zpow_pos two_pos _).le
      _ = 2 ^ a := by
        rw [← zpow_natCast, ← zpow_natCast, ← zpow_add₀ two_ne_zero]
        congr 1
        push_cast
        ring
      _ ≤ num := hnumLow
  · rw [div_lt_iff₀ hpos]
    calc (num : ℚ) < 2 ^ (a + 1) := hnumHigh
      _ = 2 ^ ((a : Int) - b + 1) * 2 ^ b := by
        rw [← zpow_natCast, ← zpow_natCast, ← zpow_add₀ two_ne_zero]
        congr 1
        push_cast
        ring
      _ ≤ 2 ^ ((a : Int) - b + 1) * den :=
        mul_le_mul_of_nonneg_left hdenLow (zpow_pos two_pos _).le

theorem twoTo_precision (hprecision : 2 ≤ f.precision) :
    twoTo f.precision = 2 * f.perExponent := by
  obtain ⟨p, hp⟩ := Nat.exists_eq_add_of_le' hprecision
  rw [perExponent, hp]
  exact Nat.pow_succ'

theorem cast_perExponent (hprecision : 2 ≤ f.precision) :
    (f.perExponent : ℚ) = 2 ^ ((f.precision : Int) - 1) := by
  have hcast : (f.precision : Int) - 1 = ((f.precision - 1 : Nat) : Int) := by omega
  rw [perExponent, cast_twoTo, hcast, zpow_natCast]

/-- The whole part of a scaled fraction is below a bound when the fraction is. -/
theorem scale_div_lt_iff {num den : Nat} (hden : 0 < den) (q : Int) (bound : Nat) :
    (scale num den q).1 / (scale num den q).2 < bound ↔ (num : ℚ) / den * 2 ^ q < bound := by
  have hpos : 0 < (scale num den q).2 := scale_pos hden q
  rw [Nat.div_lt_iff_lt_mul hpos, ← scale_eq, div_lt_iff₀ (Nat.cast_pos.mpr hpos)]
  exact_mod_cast Iff.rfl

/-- At its exponent a fraction has a significand that is full, unless the exponent is the least
one, and not too large. -/
theorem exponentOf_spec (hprecision : 2 ≤ f.precision) {num den : Nat} (hnum : num ≠ 0)
    (hden : 0 < den) : ∃ j : Nat, f.exponentOf num den = f.leastExponent + j ∧
      (j = 0 ∨ (f.perExponent : ℚ) ≤ num / den * 2 ^ (-f.exponentOf num den)) ∧
      (num : ℚ) / den * 2 ^ (-f.exponentOf num den) < 2 * f.perExponent := by
  obtain ⟨hlow, hhigh⟩ := fraction_bounds hnum hden.ne'
  unfold exponentOf
  simp only [scale_div_lt_iff hden, twoTo_precision hprecision]
  generalize hguess : (Nat.log2 num : Int) - Nat.log2 den - f.precision = guess
  have hlog : (Nat.log2 num : Int) - Nat.log2 den = guess + f.precision := by omega
  rw [hlog] at hlow hhigh
  generalize (num : ℚ) / den = x at hlow hhigh
  have hscaled : ∀ {a b : ℚ} (q : Int), a ≤ b → a * 2 ^ q ≤ b * 2 ^ q := fun q h =>
    mul_le_mul_of_nonneg_right h (zpow_pos two_pos q).le
  generalize hbase : max guess f.leastExponent = base
  obtain ⟨j, hj⟩ : ∃ j : Nat, base = f.leastExponent + j :=
    ⟨(base - f.leastExponent).toNat, by omega⟩
  by_cases hfits : x * 2 ^ (-base) < (2 * f.perExponent : Nat)
  · rw [if_pos hfits]
    refine ⟨j, hj, ?_, by exact_mod_cast hfits⟩
    rcases Nat.eq_zero_or_pos j with hzero | hpos
    · exact .inl hzero
    · right
      obtain rfl : base = guess := by omega
      calc (f.perExponent : ℚ) = 2 ^ (base + f.precision - 1) * 2 ^ (-base) := by
            rw [cast_perExponent hprecision, ← zpow_add₀ two_ne_zero]
            congr 1
            ring
        _ ≤ x * 2 ^ (-base) := hscaled _ hlow
  · rw [if_neg hfits]
    push_cast at hfits
    have hhalf : x * 2 ^ (-(base + 1)) = x * 2 ^ (-base) / 2 := by
      rw [neg_add, ← sub_eq_add_neg, zpow_sub_one₀ two_ne_zero]
      ring
    refine ⟨j + 1, by push_cast; omega, .inr ?_, ?_⟩
    · rw [hhalf]
      linarith
    · have hsmall : x * 2 ^ (-base) < 4 * f.perExponent := by
        calc x * 2 ^ (-base) < 2 ^ (guess + f.precision + 1) * 2 ^ (-base) :=
              mul_lt_mul_of_pos_right hhigh (zpow_pos two_pos _)
          _ = 2 ^ (guess + f.precision + 1 - base) := by
            rw [← zpow_add₀ two_ne_zero, ← sub_eq_add_neg]
          _ ≤ 2 ^ ((f.precision : Int) - 1 + 2) :=
            zpow_le_zpow_right₀ one_le_two (by omega)
          _ = 4 * f.perExponent := by
            rw [zpow_add₀ two_ne_zero, cast_perExponent hprecision]
            norm_num
            ring
      rw [hhalf]
      linarith

/-- A fraction other than zero rounds to a code, which is found unless it is too large. -/
theorem exists_rounds (hprecision : 2 ≤ f.precision) {num den : Nat} (hnum : num ≠ 0)
    (hden : 0 < den) : ∃ code, f.Rounds (num / den) code ∧
      f.round? num den = if code < f.size then some code else none := by
  obtain ⟨j, hexponent, hfull, hsmall⟩ := exponentOf_spec hprecision hnum hden
  have hscale := scale_eq num den (-f.exponentOf num den)
  have hpos : 0 < (scale num den (-f.exponentOf num den)).2 := scale_pos hden _
  have hnearest := isNearest_nearest (scale num den (-f.exponentOf num den)).1 hpos
  rw [hscale] at hnearest
  have hback : (num : ℚ) / den = num / den * 2 ^ (-f.exponentOf num den) *
      2 ^ (f.leastExponent + j) := by
    rw [← hexponent, mul_assoc, ← zpow_add₀ two_ne_zero, neg_add_cancel, zpow_zero, mul_one]
  have hrounds := rounds_scaled hprecision hnearest hfull hsmall
  rw [← hback] at hrounds
  refine ⟨_, hrounds, ?_⟩
  have hcount : (f.exponentOf num den - f.leastExponent).toNat = j := by omega
  rw [round?_of_ne_zero hnum, hcount]

/-- Rounding finds the code that a fraction rounds to. -/
theorem round?_eq_some (hprecision : 2 ≤ f.precision) {num den code : Nat} (hnum : num ≠ 0)
    (hden : 0 < den) (h : f.Rounds (num / den) code) (hsize : code < f.size) :
    f.round? num den = some code := by
  obtain ⟨other, hother, hround⟩ := exists_rounds hprecision hnum hden
  rw [hround, hother.unique h, if_pos hsize]

end BinaryFormat

end ServerLogin.Number
