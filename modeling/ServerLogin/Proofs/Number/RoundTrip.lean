import Mathlib.Data.List.TakeWhile
import ServerLogin.Proofs.Number.Layout
import ServerLogin.Proofs.Number.Shortest
import ServerLogin.Proofs.Text.Run

/-!
Numbers are read back as they are written.  The text of a number that is always positional spells
its shortest decimal, a decimal is read as the code that it rounds to, and the shortest one rounds
to the code that it was made from.
-/

namespace ServerLogin.Number

open ServerLogin.Text

section Spelling

/-- Digits alone spell a whole number. -/
theorem scientific?_whole {whole : List Char} (hne : whole ≠ [])
    (hdigits : ∀ c ∈ whole, c.isDigit = true) :
    scientific? whole = some ⟨Nat.ofDigitChars 10 whole 0, 0⟩ := by
  have htake : whole.takeWhile Char.isDigit = whole :=
    List.takeWhile_eq_self_iff.mpr hdigits
  have hdrop : whole.dropWhile Char.isDigit = [] := List.dropWhile_eq_nil_iff.mpr hdigits
  have hempty : whole.isEmpty = false := List.isEmpty_eq_false_iff.mpr hne
  simp [scientific?, htake, hdrop, hempty]

/-- Digits around a point spell a number, of which those behind it give the exponent. -/
theorem scientific?_point {whole fraction : List Char} (hne : whole ≠ [])
    (hwhole : ∀ c ∈ whole, c.isDigit = true) (hfraction : ∀ c ∈ fraction, c.isDigit = true) :
    scientific? (whole ++ '.' :: fraction) =
      some ⟨Nat.ofDigitChars 10 (whole ++ fraction) 0, -fraction.length⟩ := by
  have htake := takeWhile_run hwhole (by decide : Char.isDigit '.' = false) fraction
  have hdrop := dropWhile_run hwhole (by decide : Char.isDigit '.' = false) fraction
  have hmore : fraction.takeWhile Char.isDigit = fraction :=
    List.takeWhile_eq_self_iff.mpr hfraction
  have hrest : fraction.dropWhile Char.isDigit = [] := List.dropWhile_eq_nil_iff.mpr hfraction
  have hempty : whole.isEmpty = false := List.isEmpty_eq_false_iff.mpr hne
  simp [scientific?, htake, hdrop, hmore, hrest, hempty]

theorem ofDigitChars_decimal (n : Nat) : Nat.ofDigitChars 10 (decimal n) 0 = n :=
  Nat.ofDigitChars_ten_toDigits

/-- The digits of a decimal, laid out around the point, spell it. -/
theorem scientific?_positionalDigits (d : Decimal) : ∃ e : Decimal,
    scientific? (Single.positionalDigits (decimal d.digits)
      ((decimal d.digits).length + d.exponent) false) = some e ∧
      e.value = d.value ∧ (d.digits ≠ 0 → e.digits ≠ 0) := by
  have hdigits : ∀ c ∈ decimal d.digits, c.isDigit = true := fun c => isDigit_of_mem_decimal
  have hne : decimal d.digits ≠ [] := Nat.toDigits_ne_nil
  have hread := ofDigitChars_decimal d.digits
  have hzeros : ∀ n, ∀ c ∈ List.replicate n '0', c.isDigit = true := by
    intro n c hc
    rw [List.eq_of_mem_replicate hc]
    rfl
  generalize decimal d.digits = digits at hdigits hne hread
  generalize hpoint : (digits.length : Int) + d.exponent = point
  unfold Single.positionalDigits
  split
  · next hfront =>
    -- the digits stand behind the point, perhaps behind zeros
    have hbehind : ∀ c ∈ List.replicate (-point).toNat '0' ++ digits, c.isDigit = true :=
      List.forall_mem_append.mpr ⟨hzeros _, hdigits⟩
    have hspells := scientific?_point (List.cons_ne_nil '0' [])
      (List.forall_mem_singleton.mpr rfl) hbehind
    have hcoefficient : Nat.ofDigitChars 10
        (['0'] ++ (List.replicate (-point).toNat '0' ++ digits)) 0 = d.digits := by
      rw [Nat.ofDigitChars_append, Nat.ofDigitChars_append, Nat.ofDigitChars_replicate_zero]
      exact hread
    have hexponent : -((List.replicate (-point).toNat '0' ++ digits).length : Int) =
        d.exponent := by
      rw [List.length_append, List.length_replicate]
      omega
    rw [hcoefficient, hexponent] at hspells
    exact ⟨d, hspells, rfl, id⟩
  · next hbehind =>
    dsimp only
    by_cases hlength : digits.length ≤ point.toNat
    · -- the digits stand in front of the point, perhaps in front of zeros
      have hrest : digits.drop point.toNat = [] := List.drop_eq_nil_of_le hlength
      have hfirst : digits.take point.toNat = digits := List.take_of_length_le hlength
      rw [hrest, hfirst]
      have hwhole : ∀ c ∈ digits ++ List.replicate (point.toNat - digits.length) '0',
          c.isDigit = true := List.forall_mem_append.mpr ⟨hdigits, hzeros _⟩
      have hspells := scientific?_whole (List.append_ne_nil_of_left_ne_nil hne _) hwhole
      rw [Nat.ofDigitChars_append, hread, Nat.ofDigitChars_replicate_zero] at hspells
      refine ⟨_, hspells, ?_, ?_⟩
      · have hexponent : d.exponent = (point.toNat - digits.length : Nat) := by omega
        rw [Decimal.value, Decimal.value, hexponent, zpow_natCast, zpow_zero]
        push_cast
        ring
      · intro hd
        exact Nat.mul_ne_zero (Nat.pow_pos (by decide)).ne' hd
    · -- the point stands among the digits
      have hrest : (digits.drop point.toNat).isEmpty = false := by
        rw [List.isEmpty_eq_false_iff, ne_eq, List.drop_eq_nil_iff]
        exact hlength
      have hfirst : (digits.take point.toNat).length = point.toNat := by
        rw [List.length_take]
        omega
      have hfirstNe : digits.take point.toNat ≠ [] := by
        rw [← List.length_pos_iff]
        omega
      rw [hrest, hfirst, Nat.sub_self, List.replicate_zero, List.append_nil]
      have htake : ∀ c ∈ digits.take point.toNat, c.isDigit = true := fun c hc =>
        hdigits c (List.mem_of_mem_take hc)
      have hdrop : ∀ c ∈ digits.drop point.toNat, c.isDigit = true := fun c hc =>
        hdigits c (List.mem_of_mem_drop hc)
      have hspells := scientific?_point hfirstNe htake hdrop
      have hexponent : -((digits.drop point.toNat).length : Int) = d.exponent := by
        rw [List.length_drop]
        omega
      rw [List.take_append_drop, hread, hexponent] at hspells
      exact ⟨d, hspells, rfl, id⟩

end Spelling

/-- A decimal that is not zero lies between the powers of ten that its digits have. -/
theorem Decimal.value_bounds {d : Decimal} (hd : d.digits ≠ 0) :
    (10 : ℚ) ^ ((Nat.toDigits 10 d.digits).length + d.exponent - 1) ≤ d.value ∧
      d.value < 10 ^ ((Nat.toDigits 10 d.digits).length + d.exponent) := by
  have hlength : 0 < (Nat.toDigits 10 d.digits).length := Nat.length_toDigits_pos
  have hhigh : d.digits < 10 ^ (Nat.toDigits 10 d.digits).length :=
    (Nat.length_toDigits_le_iff (by decide) hlength).mp le_rfl
  generalize hsize : (Nat.toDigits 10 d.digits).length = size at hlength hhigh
  have hlow : 10 ^ (size - 1) ≤ d.digits := by
    by_contra hless
    rcases Nat.eq_zero_or_pos (size - 1) with hzero | hpos
    · rw [hzero, pow_zero] at hless
      omega
    · have hle := (Nat.length_toDigits_le_iff (by decide) hpos).mpr (Nat.lt_of_not_le hless)
      omega
  have hpower : (0 : ℚ) < 10 ^ d.exponent := zpow_pos (by norm_num) _
  constructor
  · have hsplit : (10 : ℚ) ^ ((size : Int) + d.exponent - 1) =
        (10 ^ (size - 1) : Nat) * 10 ^ d.exponent := by
      rw [Nat.cast_pow, Nat.cast_ofNat, ← zpow_natCast, ← zpow_add₀ (by norm_num)]
      congr 1
      omega
    rw [hsplit, Decimal.value]
    exact mul_le_mul_of_nonneg_right (Nat.cast_le.mpr hlow) hpower.le
  · have hsplit : (10 : ℚ) ^ ((size : Int) + d.exponent) = (10 ^ size : Nat) * 10 ^ d.exponent := by
      rw [Nat.cast_pow, Nat.cast_ofNat, ← zpow_natCast, ← zpow_add₀ (by norm_num)]
    rw [hsplit, Decimal.value]
    exact mul_lt_mul_of_pos_right (Nat.cast_lt.mpr hhigh) hpower

/-- The least number that is positive, and the first that is too large. -/
theorem single_value_one : single.value 1 = 2 ^ (-149 : Int) := by
  rw [single.value_of_lt (by decide), BinaryFormat.fraction]
  norm_num [single]

theorem single_value_size : single.value single.size = 2 ^ (128 : Int) := by
  have hsize : single.size = single.perExponent * (254 + 1) + 0 := by decide
  rw [hsize, single.value_of_exponent 254 single.perExponent_pos, BinaryFormat.fraction]
  norm_num [single, BinaryFormat.perExponent, twoTo]

/-- A decimal is read as the code that it rounds to. -/
theorem ofDecimal?_eq_some {d : Decimal} (hd : d.digits ≠ 0) {code : Nat} (hcode : 0 < code)
    (hsize : code < single.size) (h : single.Rounds d.value code) :
    single.ofDecimal? d.digits d.exponent = some code := by
  obtain ⟨hlow, hhigh⟩ := Decimal.value_bounds hd
  unfold BinaryFormat.ofDecimal?
  rw [if_neg hd]
  dsimp only
  generalize ((Nat.toDigits 10 d.digits).length : Int) + d.exponent = magnitude at hlow hhigh
  have hten : ∀ {a b : Int}, a ≤ b → (10 : ℚ) ^ a ≤ 10 ^ b := fun h =>
    zpow_le_zpow_right₀ (by norm_num) h
  -- numbers of the format are far from the powers at which reading gives up
  have hnotSmall : ¬magnitude < -400 := by
    intro hsmall
    obtain ⟨less, rfl⟩ := Nat.exists_eq_add_of_le' hcode
    have hbelow := h.below less rfl
    have hnonneg := single.value_strictMono.monotone (Nat.zero_le less)
    have hfirst := single.value_strictMono.monotone hcode
    have hpower : (10 : ℚ) ^ magnitude ≤ 10 ^ (-50 : Int) := hten (by omega)
    have hgap : (2 : ℚ) * 10 ^ (-50 : Int) < 2 ^ (-149 : Int) := by norm_num
    rw [single.value_zero] at hnonneg
    rw [single_value_one] at hfirst
    linarith
  have hnotLarge : ¬400 < magnitude := by
    intro hlarge
    have habove := h.above
    have hcodes := single.value_strictMono.monotone hsize.le
    have hnext := single.value_strictMono.monotone (Nat.succ_le_of_lt hsize)
    have hpower : (10 : ℚ) ^ (50 : Int) ≤ 10 ^ (magnitude - 1) := hten (by omega)
    have hgap : (2 : ℚ) ^ (128 : Int) < 10 ^ (50 : Int) := by norm_num
    rw [single_value_size] at hcodes hnext
    rw [Nat.succ_eq_add_one] at hnext
    linarith
  rw [if_neg hnotSmall, if_neg hnotLarge]
  have hprecision : 2 ≤ single.precision := by decide
  unfold Decimal.value at h
  split
  · next hwhole =>
    have hpower : (10 : ℚ) ^ d.exponent = tenTo d.exponent.toNat := by
      rw [cast_tenTo, ← zpow_natCast, Int.toNat_of_nonneg hwhole]
    have hne : d.digits * tenTo d.exponent.toNat ≠ 0 :=
      Nat.mul_ne_zero hd (Interval.tenTo_pos _).ne'
    apply BinaryFormat.round?_eq_some hprecision hne Nat.one_pos _ hsize
    rw [Nat.cast_one, div_one, Nat.cast_mul, ← hpower]
    exact h
  · next hpart =>
    have hpower : (10 : ℚ) ^ d.exponent = 1 / tenTo (-d.exponent).toNat := by
      rw [cast_tenTo, ← zpow_natCast, Int.toNat_of_nonneg (by omega), zpow_neg, one_div, inv_inv]
    apply BinaryFormat.round?_eq_some hprecision hd (Interval.tenTo_pos _) _ hsize
    rw [← mul_one_div, ← hpower]
    exact h

namespace Single

/-- The text of a number without its sign spells a decimal that is read as its code. -/
theorem ofDecimal_magnitudeText (negative : Bool) (code : Fin single.size) :
    ∃ d, scientific? (magnitudeText .plain code.val) = some d ∧
      ofDecimal negative d.digits d.exponent = .finite negative code := by
  have hcode : ∀ {d : Decimal}, single.ofDecimal? d.digits d.exponent = some code.val →
      ofDecimal negative d.digits d.exponent = .finite negative code := by
    intro d hd
    unfold ofDecimal
    rw [hd]
    exact dif_pos code.isLt
  unfold magnitudeText
  split
  · next hzero =>
    refine ⟨⟨0, 0⟩, rfl, hcode ?_⟩
    rw [hzero]
    rfl
  · next hne =>
    have hpos := Nat.pos_of_ne_zero hne
    obtain ⟨hdigits, hrounds⟩ := rounds_shortest Layout.plain.tie hpos
    obtain ⟨d, hspells, hvalue, hnonzero⟩ :=
      scientific?_positionalDigits (shortest Layout.plain.tie code)
    refine ⟨d, hspells, hcode ?_⟩
    exact ofDecimal?_eq_some (hnonzero hdigits) hpos code.isLt (hvalue ▸ hrounds)

theorem magnitude?_of_scientific? {cs : List Char} {d : Decimal} (h : scientific? cs = some d)
    (negative : Bool) :
    magnitude? negative cs = some (ofDecimal negative d.digits d.exponent) := by
  rw [magnitude?, h]

theorem read?_of_minus {s : String} {cs : List Char} (hs : s.toList = '-' :: cs) {d : Decimal}
    (h : scientific? cs = some d) : read? s = some (ofDecimal true d.digits d.exponent) := by
  unfold read?
  rw [hs]
  exact magnitude?_of_scientific? h true

theorem read?_of_digit {s : String} {c : Char} (hs : s.toList.head? = some c)
    (hdigit : c.isDigit = true) {d : Decimal} (h : scientific? s.toList = some d) :
    read? s = some (ofDecimal false d.digits d.exponent) := by
  unfold read?
  split
  · next hminus =>
    rw [hminus] at hs
    cases hs
    cases hdigit
  · next hplus =>
    rw [hplus] at hs
    cases hs
    cases hdigit
  · exact magnitude?_of_scientific? h false

/-- A number is read back from its text, unless it is none. -/
theorem read?_text {x : Single} (h : x ≠ .nan) : read? (x.text .plain) = some x := by
  cases x with
  | nan => exact absurd rfl h
  | infinity negative => cases negative <;> decide
  | finite negative code =>
    obtain ⟨d, hspells, hd⟩ := ofDecimal_magnitudeText negative code
    cases negative with
    | true => exact (read?_of_minus String.toList_ofList hspells).trans (congrArg some hd)
    | false =>
      obtain ⟨_, c, hhead, hdigit⟩ := leadsDigit_magnitudeText .plain code.val
      have htext : (text .plain (.finite false code)).toList = magnitudeText .plain code.val :=
        String.toList_ofList
      rw [← htext] at hhead hspells
      exact (read?_of_digit hhead hdigit hspells).trans (congrArg some hd)

theorem text_plain_inj {x y : Single} (hx : x ≠ .nan) (hy : y ≠ .nan)
    (h : x.text .plain = y.text .plain) : x = y := by
  apply Option.some.inj
  rw [← read?_text hx, ← read?_text hy, h]

end Single

end ServerLogin.Number
