import ServerLogin.Proofs.Number.Rounding

/-!
The shortest decimal of a number reads back as that number.  `interval` spans the fractions
that round to a code, a decimal that is found lies in it, and one is found in the end: below
the least power of ten that is tried, multiples lie closer than the ends of every interval.
-/

namespace ServerLogin.Number

open BinaryFormat

/-- The fraction that a decimal stands for. -/
def Decimal.value (d : Decimal) : ℚ := d.digits * 10 ^ d.exponent

namespace BinaryFormat

variable {f : BinaryFormat}

/-- A code counts full significands, one for each exponent, and the last one on top. -/
theorem exists_scaled (f : BinaryFormat) (code : Nat) : ∃ j n, code = j * f.perExponent + n ∧
    f.decode code = (n, f.leastExponent + j) ∧ n < 2 * f.perExponent ∧
      (j = 0 ∨ f.perExponent ≤ n) := by
  have hpos := f.perExponent_pos
  unfold decode
  change ∃ j n, _ ∧ (if code < f.perExponent then _ else
    (f.perExponent + code % f.perExponent, f.leastExponent + (code / f.perExponent : Nat) - 1)) =
      _ ∧ _
  by_cases hlow : code < f.perExponent
  · refine ⟨0, code, by simp, ?_, by omega, .inl rfl⟩
    rw [if_pos hlow]
    simp
  · obtain ⟨j, hj⟩ : ∃ j, code / f.perExponent = j + 1 :=
      Nat.exists_eq_succ_of_ne_zero (Nat.div_pos (Nat.le_of_not_lt hlow) hpos).ne'
    have hsplit := Nat.div_add_mod code f.perExponent
    have hrest := Nat.mod_lt code hpos
    rw [hj] at hsplit
    refine ⟨j, f.perExponent + code % f.perExponent, ?_, ?_, by omega, .inr (by omega)⟩
    · rw [← hsplit, Nat.mul_add_mod, Nat.mod_mod]
      ring
    · rw [if_neg hlow, hj]
      congr 1
      push_cast
      ring

end BinaryFormat

/-- The powers of two in front of and below an interval are those of one unit. -/
theorem up_div_den (q : Int) :
    (twoTo (q - 2).toNat : ℚ) / twoTo (2 - q).toNat = 2 ^ q / 4 := by
  have hquarter : (2 : ℚ) ^ q / 4 = 2 ^ (q - 2) := by
    rw [zpow_sub₀ two_ne_zero]
    norm_num
  rw [hquarter, cast_twoTo, cast_twoTo]
  rcases Int.le_total 2 q with hq | hq
  · have hzero : (2 - q).toNat = 0 := by omega
    rw [hzero, pow_zero, div_one, two_zpow_of_nonneg (by omega)]
  · have hzero : (q - 2).toNat = 0 := by omega
    have hneg : q - 2 = -(2 - q) := by ring
    rw [hzero, pow_zero, one_div, hneg, zpow_neg, two_zpow_of_nonneg (by omega)]

/-- An interval spans the fractions between the middles to the codes around. -/
structure Spans (f : BinaryFormat) (code : Nat) (i : Interval) : Prop where
  den : 0 < i.den
  value : (i.value : ℚ) / i.den = f.value code
  low : ∀ less, code = less + 1 → 2 * ((i.low : ℚ) / i.den) = f.value less + f.value code
  high : 2 * ((i.high : ℚ) / i.den) = f.value code + f.value (code + 1)
  closed : i.closed = true ↔ code % 2 = 0
  gap : (i.low : ℚ) / i.den + 2 ^ f.leastExponent / 4 ≤ f.value code

theorem spans_interval {f : BinaryFormat} (hprecision : 2 ≤ f.precision) {code : Nat}
    (hcode : 0 < code) : Spans f code (interval f code) := by
  obtain ⟨j, n, rfl, hdecode, hn, hfull⟩ := f.exists_scaled code
  have hpos := f.perExponent_pos
  have heven := perExponent_even hprecision
  have hparity : (j * f.perExponent + n) % 2 = n % 2 := by
    rw [Nat.add_mod, Nat.mul_mod, heven, Nat.mul_zero, Nat.zero_mod, Nat.zero_add, Nat.mod_mod]
  have hnpos : 1 ≤ n := by
    rcases hfull with rfl | hfull
    · omega
    · omega
  have hleast : (2 : ℚ) ^ f.leastExponent ≤ 2 ^ (f.leastExponent + j) :=
    zpow_le_zpow_right₀ one_le_two (by omega)
  have hvalue := value_scaled hfull hn.le
  have hnext := value_scaled (n := n + 1) (hfull.imp_right Nat.le_succ_of_le) hn
  rw [← Nat.add_assoc, Nat.cast_succ] at hnext
  have hscale : ∀ k : Nat, ((k * twoTo (f.leastExponent + j - 2).toNat : Nat) : ℚ) /
      (twoTo (2 - (f.leastExponent + j)).toNat : Nat) = k * (2 ^ (f.leastExponent + j) / 4) := by
    intro k
    rw [Nat.cast_mul, mul_div_assoc, up_div_den]
  -- behind a significand that is the first full one, codes lie at half the distance
  obtain ⟨below, hbelow, hrange, hbefore⟩ : ∃ below : Nat,
      (if n = twoTo (f.precision - 1) ∧ f.leastExponent < f.leastExponent + j then 1 else 2) =
        below ∧ (1 ≤ below ∧ below ≤ 2) ∧ ∀ less, j * f.perExponent + n = less + 1 →
        f.value less = (n - below / 2) * 2 ^ (f.leastExponent + j) := by
    by_cases hfirst : n = f.perExponent ∧ 0 < j
    · obtain ⟨rfl, hj⟩ := hfirst
      obtain ⟨i, rfl⟩ : ∃ i, j = i + 1 := ⟨j - 1, by omega⟩
      refine ⟨1, if_pos ⟨rfl, by omega⟩, by omega, fun less hless => ?_⟩
      obtain rfl : less = i * f.perExponent + (2 * f.perExponent - 1) := by
        rw [Nat.succ_mul] at hless
        omega
      have hdouble : (2 : ℚ) ^ (f.leastExponent + (i + 1 : Nat)) =
          2 ^ (f.leastExponent + i) * 2 := by
        rw [Nat.cast_succ, ← add_assoc, zpow_add_one₀ two_ne_zero]
      rw [value_scaled (.inr (by omega)) (by omega), hdouble, Nat.cast_sub (by omega)]
      push_cast
      ring
    · refine ⟨2, if_neg ?_, by omega, fun less hless => ?_⟩
      · rintro ⟨hn, hj⟩
        exact hfirst ⟨hn, by omega⟩
      · obtain ⟨m, rfl⟩ := Nat.exists_eq_add_of_le' hnpos
        obtain rfl : less = j * f.perExponent + m := by omega
        rw [value_scaled (by omega) (by omega), Nat.cast_succ]
        push_cast
        ring
  rw [interval, hdecode]
  dsimp only
  rw [hbelow]
  generalize (2 : ℚ) ^ (f.leastExponent + j) = s at hvalue hnext hscale hbefore hleast
  have hlow : ((4 * n - below : Nat) : ℚ) = 4 * n - below := by
    rw [Nat.cast_sub (by omega)]
    push_cast
    ring
  have hone : (1 : ℚ) ≤ below := by exact_mod_cast hrange.1
  constructor
  · exact twoTo_pos _
  · rw [hscale, hvalue]
    push_cast
    ring
  · intro less hless
    rw [hscale, hlow, hbefore less hless, hvalue]
    ring
  · rw [hscale, hvalue, hnext]
    push_cast
    ring
  · rw [hparity]
    exact decide_eq_true_iff
  · rw [hscale, hlow, hvalue]
    have hpositive : (0 : ℚ) < 2 ^ f.leastExponent := zpow_pos two_pos _
    nlinarith

namespace Interval

def Holds (i : Interval) (x : ℚ) : Prop :=
  if i.closed then (i.low : ℚ) / i.den ≤ x ∧ x ≤ (i.high : ℚ) / i.den
  else (i.low : ℚ) / i.den < x ∧ x < (i.high : ℚ) / i.den

/-- Whether a multiple of a power of ten is taken: it is not zero and lies in the interval. -/
def takes (i : Interval) (t : Int) (k : Nat) : Bool :=
  let up := tenTo (-t).toNat
  let unit := i.den * tenTo t.toNat
  k ≠ 0 && (if i.closed then i.low * up ≤ k * unit && k * unit ≤ i.high * up
    else i.low * up < k * unit && k * unit < i.high * up)

/-- The multiple of a power of ten next below the number. -/
def floor (i : Interval) (t : Int) : Nat :=
  i.value * tenTo (-t).toNat / (i.den * tenTo t.toNat)

variable {i : Interval} {f : BinaryFormat} {tie : Tie}

theorem tenTo_pos (k : Nat) : 0 < tenTo k := Nat.pow_pos (by decide)

theorem ten_zpow_mul (t : Int) : (10 : ℚ) ^ t * tenTo (-t).toNat = tenTo t.toNat := by
  rw [cast_tenTo, cast_tenTo]
  rcases Int.le_total 0 t with ht | ht
  · obtain ⟨n, rfl⟩ := Int.eq_ofNat_of_zero_le ht
    have hzero : (-(n : Int)).toNat = 0 := by omega
    rw [hzero, pow_zero, mul_one, zpow_natCast, Int.toNat_natCast]
  · obtain ⟨n, hn⟩ := Int.eq_ofNat_of_zero_le (neg_nonneg.mpr ht)
    obtain rfl : t = -n := by omega
    have hzero : (-(n : Int)).toNat = 0 := by omega
    rw [hzero, pow_zero, neg_neg, Int.toNat_natCast, zpow_neg, zpow_natCast]
    exact inv_mul_cancel₀ (pow_ne_zero n (by norm_num))

/-- Comparing a fraction with a multiple of a power of ten needs no fractions. -/
theorem le_multiple_iff (hden : 0 < i.den) (t : Int) (n k : Nat) :
    n * tenTo (-t).toNat ≤ k * (i.den * tenTo t.toNat) ↔ (n : ℚ) / i.den ≤ k * 10 ^ t := by
  have hpos : (0 : ℚ) < i.den := Nat.cast_pos.mpr hden
  have hup : (0 : ℚ) < tenTo (-t).toNat := Nat.cast_pos.mpr (tenTo_pos _)
  rw [div_le_iff₀ hpos, ← mul_le_mul_iff_left₀ hup]
  have hright : (k : ℚ) * 10 ^ t * i.den * tenTo (-t).toNat = k * (i.den * tenTo t.toNat) := by
    rw [← ten_zpow_mul t]
    ring
  rw [hright]
  exact_mod_cast Iff.rfl

theorem multiple_le_iff (hden : 0 < i.den) (t : Int) (n k : Nat) :
    k * (i.den * tenTo t.toNat) ≤ n * tenTo (-t).toNat ↔ k * 10 ^ t ≤ (n : ℚ) / i.den := by
  have hpos : (0 : ℚ) < i.den := Nat.cast_pos.mpr hden
  have hup : (0 : ℚ) < tenTo (-t).toNat := Nat.cast_pos.mpr (tenTo_pos _)
  rw [le_div_iff₀ hpos, ← mul_le_mul_iff_left₀ hup]
  have hleft : (k : ℚ) * 10 ^ t * i.den * tenTo (-t).toNat = k * (i.den * tenTo t.toNat) := by
    rw [← ten_zpow_mul t]
    ring
  rw [hleft]
  exact_mod_cast Iff.rfl

theorem takes_iff (hden : 0 < i.den) (t : Int) (k : Nat) :
    i.takes t k = true ↔ k ≠ 0 ∧ i.Holds (k * 10 ^ t) := by
  unfold takes Holds
  cases i.closed with
  | true =>
    simp only [if_true, Bool.and_eq_true, decide_eq_true_eq, le_multiple_iff hden,
      multiple_le_iff hden]
  | false =>
    simp only [Bool.false_eq_true, if_false, Bool.and_eq_true, decide_eq_true_eq,
      ← not_le, le_multiple_iff hden, multiple_le_iff hden]

/-- At a power of ten a multiple that is taken is found; there is none only where the one next
below the number is not taken. -/
theorem hit?_cases (tie : Tie) (i : Interval) (t : Int) :
    (i.hit? tie t = none ∧ i.takes t (i.floor t) = false) ∨
      ∃ k, i.takes t k = true ∧ i.hit? tie t = some ⟨k, t⟩ := by
  unfold hit?
  dsimp only
  split
  · next hfloor _ => exact .inl ⟨rfl, hfloor⟩
  · next hfloor _ => exact .inr ⟨i.floor t, hfloor, rfl⟩
  · next _ hnext => exact .inr ⟨i.floor t + 1, hnext, rfl⟩
  · next hfloor hnext =>
    right
    split
    · exact ⟨i.floor t, hfloor, rfl⟩
    · exact ⟨i.floor t + 1, hnext, rfl⟩

theorem holds_of_hit? (hden : 0 < i.den) {t : Int} {d : Decimal} (h : i.hit? tie t = some d) :
    d.digits ≠ 0 ∧ i.Holds d.value := by
  rcases hit?_cases tie i t with ⟨hnone, _⟩ | ⟨k, htakes, hsome⟩
  · cases hnone.symm.trans h
  · cases hsome.symm.trans h
    exact (takes_iff hden t k).mp htakes

theorem exists_hit? {t : Int} (h : i.takes t (i.floor t) = true) : ∃ d, i.hit? tie t = some d := by
  rcases hit?_cases tie i t with ⟨_, hnot⟩ | ⟨k, _, hsome⟩
  · cases hnot.symm.trans h
  · exact ⟨_, hsome⟩

/-- When something is found on the way down, that is what comes out. -/
theorem exists_descend {steps below : Nat} {t : Int} (hbelow : below < steps)
    (h : ∃ d, i.hit? tie (t - below) = some d) :
    ∃ s, i.hit? tie s = some (i.descend tie steps t) := by
  induction steps generalizing below t with
  | zero => omega
  | succ steps ih =>
    rw [descend]
    cases hhit : i.hit? tie t with
    | some d => exact ⟨t, hhit⟩
    | none =>
      cases below with
      | zero =>
        obtain ⟨d, hd⟩ := h
        rw [Nat.cast_zero, sub_zero, hhit] at hd
        cases hd
      | succ below =>
        refine ih (Nat.lt_of_succ_lt_succ hbelow) ?_
        rwa [sub_sub, add_comm, ← Nat.cast_succ]

theorem Holds.rounds {x : ℚ} {code : Nat} (h : i.Holds x) (hspans : Spans f code i) :
    f.Rounds x code := by
  have hlow := hspans.low
  have hhigh := hspans.high
  unfold Holds at h
  by_cases hclosed : i.closed = true
  · rw [if_pos hclosed] at h
    have heven := hspans.closed.mp hclosed
    constructor
    · linarith [h.2]
    · exact fun _ => heven
    · intro less hless
      linarith [h.1, hlow less hless]
    · exact fun _ _ _ => heven
  · rw [if_neg hclosed] at h
    constructor
    · linarith [h.2]
    · intro heq
      linarith [h.2]
    · intro less hless
      linarith [h.1, hlow less hless]
    · intro less hless heq
      linarith [h.1, hlow less hless]

/-- A power of ten that is small enough has a multiple in the interval of a code. -/
theorem takes_floor {code : Nat} (hspans : Spans f code i) {t : Int}
    (hsmall : (10 : ℚ) ^ t ≤ 2 ^ f.leastExponent / 4) : i.takes t (i.floor t) = true := by
  have hden := hspans.den
  have hunit : 0 < i.den * tenTo t.toNat := Nat.mul_pos hden (tenTo_pos _)
  have hfloor : (i.floor t : ℚ) * 10 ^ t ≤ f.value code := by
    rw [← hspans.value, ← multiple_le_iff hden]
    exact Nat.div_mul_le_self _ _
  have hnext : f.value code < (i.floor t + 1 : Nat) * 10 ^ t := by
    rw [← hspans.value, ← not_le, ← multiple_le_iff hden, Nat.not_le]
    exact Nat.lt_mul_of_div_lt (Nat.lt_succ_self _) hunit
  have hten : (0 : ℚ) < 10 ^ t := zpow_pos (by norm_num) t
  have hstep := f.value_lt_value_succ code
  have hgap := hspans.gap
  have hhigh := hspans.high
  have hnonneg : (0 : ℚ) ≤ (i.low : ℚ) / i.den :=
    div_nonneg (Nat.cast_nonneg _) (Nat.cast_nonneg _)
  push_cast at hnext
  rw [takes_iff hden]
  constructor
  · intro hzero
    rw [hzero, Nat.cast_zero, zero_add, one_mul] at hnext
    linarith
  · have habove : (i.low : ℚ) / i.den < i.floor t * 10 ^ t := by linarith
    have hbelow : i.floor t * 10 ^ t < (i.high : ℚ) / i.den := by linarith
    unfold Holds
    split
    · exact ⟨habove.le, hbelow.le⟩
    · exact ⟨habove, hbelow⟩

end Interval

/-- The shortest decimal of a number rounds to it. -/
theorem rounds_shortest (tie : Tie) {code : Nat} (hcode : 0 < code) :
    (shortest tie code).digits ≠ 0 ∧ single.Rounds (shortest tie code).value code := by
  have hspans : Spans single code (interval single code) := spans_interval (by decide) hcode
  have hsmall : (10 : ℚ) ^ (39 - (99 : Nat) : Int) ≤ 2 ^ single.leastExponent / 4 := by
    norm_num [single]
  have hlast : 99 < 100 := by decide
  obtain ⟨d, hd⟩ : ∃ d, (interval single code).hit? tie (39 - (99 : Nat)) = some d :=
    Interval.exists_hit? (Interval.takes_floor hspans hsmall)
  obtain ⟨t, ht⟩ := Interval.exists_descend hlast ⟨d, hd⟩
  rw [shortest, if_neg hcode.ne']
  obtain ⟨hdigits, hholds⟩ := Interval.holds_of_hit? hspans.den ht
  exact ⟨hdigits, hholds.rounds hspans⟩

end ServerLogin.Number
