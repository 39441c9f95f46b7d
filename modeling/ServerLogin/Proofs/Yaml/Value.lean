import ServerLogin.Proofs.Yaml.Scalars

/-!
What the scalars of a written mapping stand for.
-/

namespace ServerLogin.Yaml

open ServerLogin.Number ServerLogin.Text

theorem digitsIn?_decimal (n : Nat) : digitsIn? 10 (decimal n) = some n := by
  have hall : (decimal n).all (isDigitIn 10) = true := by
    rw [List.all_eq_true]
    intro c hc
    obtain ⟨hvalue, hlt⟩ := digitValue_of_isDigit (isDigit_of_mem_decimal hc)
    rw [isDigitIn, hvalue]
    exact decide_eq_true hlt
  have hne : (decimal n).isEmpty = false := List.isEmpty_eq_false_iff.mpr Nat.toDigits_ne_nil
  rw [digitsIn?, hne, hall, ofDigits_decimal]
  rfl

theorem based?_decimal (n : Nat) : based? (decimal n) = none := by
  rcases decimal_cases n with h | ⟨c, rest, h, _, hzero⟩
  · rw [h]
    rfl
  · rw [h, based?.eq_def]
    split
    · next heq => exact absurd (List.cons.inj heq).1 hzero
    · next heq => exact absurd (List.cons.inj heq).1 hzero
    · next heq => exact absurd (List.cons.inj heq).1 hzero
    · rfl

theorem isPaddedNumber_integerText (n : Int) : isPaddedNumber (integerText n) = false := by
  have hunsigned : unsigned (integerText n).toList = decimal n.natAbs := by
    rw [integerText, String.toList_ofList]
    split
    · rfl
    · obtain ⟨c, rest, hcons, hdigit⟩ := decimal_eq_cons n.natAbs
      rw [hcons, unsigned.eq_def]
      split
      · next heq => exact absurd (List.cons.inj heq).1 (ne_of_isDigit hdigit (by decide))
      · next heq => exact absurd (List.cons.inj heq).1 (ne_of_isDigit hdigit (by decide))
      · rfl
  rw [isPaddedNumber, hunsigned]
  rcases decimal_cases n.natAbs with h | ⟨c, rest, h, _, hzero⟩
  · rw [h]
    rfl
  · rw [h]
    split
    · next heq => exact absurd (List.cons.inj heq).1 hzero
    · rfl

theorem magnitude?_integerText (n : Int) :
    magnitude? (integerText n) (decimal n.natAbs) = some n.natAbs := by
  rw [magnitude?, based?_decimal, isPaddedNumber_integerText, digitsIn?_decimal]
  rfl

theorem integer?_integerText (n : Int) : integer? (integerText n) = some n := by
  have hmagnitude := magnitude?_integerText n
  by_cases hneg : n < 0
  · have htext : (integerText n).toList = '-' :: decimal n.natAbs := by
      rw [integerText, if_pos hneg, String.toList_ofList]
    have habs : -(n.natAbs : Int) = n := by omega
    rw [integer?, htext]
    change (magnitude? (integerText n) (decimal n.natAbs)).map (fun k : Nat => -(k : Int)) = some n
    rw [hmagnitude, Option.map_some, habs]
  · have htext : (integerText n).toList = decimal n.natAbs := by
      rw [integerText, if_neg hneg, String.toList_ofList]
    have habs : (n.natAbs : Int) = n := by omega
    obtain ⟨c, rest, hcons, hdigit⟩ := decimal_eq_cons n.natAbs
    rw [integer?, htext]
    rw [hcons] at hmagnitude ⊢
    split
    · next heq => exact absurd (List.cons.inj heq).1 (ne_of_isDigit hdigit (by decide))
    · next heq => exact absurd (List.cons.inj heq).1 (ne_of_isDigit hdigit (by decide))
    · rw [hmagnitude, Option.map_some, habs]

theorem natural?_integerText {limit n : Nat} (h : n < limit) :
    natural? limit (integerText n) = some n := by
  have htext : (integerText n).toList.head? ≠ some '-' := by
    have hpos : ¬(n : Int) < 0 := by omega
    obtain ⟨c, rest, hcons, hdigit⟩ := decimal_eq_cons n
    rw [integerText, if_neg hpos, String.toList_ofList, Int.natAbs_natCast, hcons]
    rintro heq
    cases heq
    exact absurd hdigit (by decide)
  rw [natural?, if_neg (by simpa using htext), integer?_integerText, Option.map_some,
    Int.toNat_natCast, Option.filter_some, if_pos (by simpa using h)]

theorem isNull_of_isNumeral {text : String} (h : IsNumeral text.toList) :
    (text.isEmpty || isNull text) = false := by
  rw [Bool.or_eq_false_iff]
  constructor
  · rw [← Bool.not_eq_true, String.isEmpty_iff]
    rintro rfl
    exact h.ne_nil rfl
  · rw [Bool.eq_false_iff]
    intro hnull
    have hother : ["null", "Null", "NULL", "~"].all
        (fun word => word.toList.any fun c => !isNumberChar c) = true := by decide
    have htext := List.all_eq_true.mp hother text (List.contains_iff_mem.mp hnull)
    obtain ⟨c, hc, hchar⟩ := List.any_eq_true.mp htext
    rw [h.isNumberChar c hc] at hchar
    cases hchar

namespace Value

variable {α : Type}

/-- A value that is not written as null is read as it is. -/
theorem optional?_of_ne {read : Value → Option α} {s : Scalar} (htag : s.tag = none)
    (h : s.style = .plain → (s.text.isEmpty || isNull s.text) = false) :
    optional? read (.scalar s) = (read (.scalar s)).map some := by
  rw [optional?]
  split
  · rfl
  · next hstyle =>
    rw [bne_iff_ne, not_not] at hstyle
    rw [htag]
    simp only [h hstyle]
    rfl

theorem text?_text (text : String) :
    optional? text? (.scalar (Content.text text).scalar) = some (some text) := by
  rw [optional?_of_ne rfl]
  · rfl
  · intro hstyle
    rcases styleOf_cases text with ⟨h, _⟩ | ⟨_, _, hkind⟩ | ⟨h, _⟩ | h
    · exact absurd (h.symm.trans hstyle) (by decide)
    · simp only [isOtherKind, Bool.or_eq_false_iff] at hkind
      exact Bool.or_eq_false_iff.mpr hkind.1.1.1.1
    · exact absurd (h.symm.trans hstyle) (by decide)
    · exact absurd (h.symm.trans hstyle) (by decide)

theorem bool?_bool (b : Bool) : bool? (.scalar (Content.bool b).scalar) = some b := by
  cases b <;> decide

theorem natural?_integer {limit n : Nat} (h : n < limit) :
    optional? (natural? limit) (.scalar (Content.integer n).scalar) = some (some n) := by
  have hnull := isNull_of_isNumeral (isNumeral_integerText n)
  rw [optional?_of_ne (s := (Content.integer n).scalar) rfl fun _ => hnull]
  exact congrArg (Option.map some) (natural?_integerText h)

theorem int64?_integer (n : Int64) :
    int64? (.scalar (Content.integer n.toInt).scalar) = some n := by
  have hread : (integer? (integerText n.toInt)).bind int64OfInt? = some n := by
    rw [integer?_integerText, Option.bind_some, int64OfInt?_toInt]
  exact hread

theorem number?_number (x : Single) :
    number? (.scalar (Content.number x).scalar) = Yaml.number? (x.text .document) := rfl

end Value
end ServerLogin.Yaml
