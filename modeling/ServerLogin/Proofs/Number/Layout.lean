import ServerLogin.Number.Single
import ServerLogin.Proofs.Number.Integer

/-!
The characters of a written number: digits, points, dashes and the mark of a power
of ten.  Behind its sign a number begins with a digit.
-/

namespace ServerLogin.Number

open ServerLogin.Text

def isNumberChar (c : Char) : Bool := c.isDigit || c == '.' || c == 'e' || c == '-'

/-- A text that begins with a digit and goes on as a number does. -/
def LeadsDigit (cs : List Char) : Prop :=
  (∀ c ∈ cs, isNumberChar c = true) ∧ ∃ c ∈ cs.head?, c.isDigit = true

theorem isNumberChar_of_isDigit {c : Char} (h : c.isDigit = true) : isNumberChar c = true := by
  simp [isNumberChar, h]

theorem leadsDigit_append {front back : List Char} (hfront : LeadsDigit front)
    (hback : ∀ c ∈ back, isNumberChar c = true) : LeadsDigit (front ++ back) := by
  obtain ⟨hall, c, hc, hdigit⟩ := hfront
  refine ⟨List.forall_mem_append.mpr ⟨hall, hback⟩, c, ?_, hdigit⟩
  rw [List.head?_append, hc]
  rfl

theorem leadsDigit_of_digits {cs : List Char} (hne : cs ≠ []) (h : ∀ c ∈ cs, c.isDigit = true) :
    LeadsDigit cs := by
  obtain ⟨c, cs, rfl⟩ := List.exists_cons_of_ne_nil hne
  exact ⟨fun d hd => isNumberChar_of_isDigit (h d hd), c, rfl, h c List.mem_cons_self⟩

theorem leadsDigit_zero : LeadsDigit ['0'] :=
  leadsDigit_of_digits (by simp) (List.all_eq_true.mp (by decide))

theorem leadsDigit_decimal (n : Nat) : LeadsDigit (decimal n) :=
  leadsDigit_of_digits Nat.toDigits_ne_nil fun _ => isDigit_of_mem_decimal

theorem isNumberChar_of_mem_integerText {n : Int} {c : Char} (h : c ∈ (integerText n).toList) :
    isNumberChar c = true := by
  have hdecimal := (leadsDigit_decimal n.natAbs).1
  rw [integerText, String.toList_ofList] at h
  split at h
  · rcases List.mem_cons.mp h with rfl | h
    · rfl
    · exact hdecimal c h
  · exact hdecimal c h

/-- A text that begins with a digit, perhaps behind a minus sign, and goes on as a
number does. -/
def IsNumeral (cs : List Char) : Prop :=
  LeadsDigit cs ∨ ∃ digits, cs = '-' :: digits ∧ LeadsDigit digits

theorem IsNumeral.ne_nil {cs : List Char} (h : IsNumeral cs) : cs ≠ [] := by
  rcases h with ⟨_, c, hc, _⟩ | ⟨digits, rfl, _⟩
  · exact List.ne_nil_of_mem (List.mem_of_mem_head? hc)
  · nofun

theorem IsNumeral.isNumberChar {cs : List Char} (h : IsNumeral cs) :
    ∀ c ∈ cs, isNumberChar c = true := by
  rcases h with h | ⟨digits, rfl, h⟩
  · exact h.1
  · exact List.forall_mem_cons.mpr ⟨rfl, h.1⟩

/-- A number begins with a digit, or with a dash in front of one. -/
theorem IsNumeral.eq_cons {cs : List Char} (h : IsNumeral cs) : ∃ c rest, cs = c :: rest ∧
    (c = '-' → ∃ d more, rest = d :: more ∧ d.isDigit = true) ∧ c ≠ '.' := by
  rcases h with ⟨_, c, hc, hdigit⟩ | ⟨digits, rfl, _, c, hc, hdigit⟩
  · obtain ⟨rest, rfl⟩ := List.head?_eq_some_iff.mp hc
    exact ⟨c, rest, rfl, fun hdash => absurd hdash (ne_of_isDigit hdigit (by decide)),
      ne_of_isDigit hdigit (by decide)⟩
  · obtain ⟨more, rfl⟩ := List.head?_eq_some_iff.mp hc
    exact ⟨'-', c :: more, rfl, fun _ => ⟨c, more, rfl, hdigit⟩, by decide⟩

theorem isNumeral_integerText (n : Int) : IsNumeral (integerText n).toList := by
  rw [integerText, String.toList_ofList]
  split
  · exact .inr ⟨_, rfl, leadsDigit_decimal _⟩
  · exact .inl (leadsDigit_decimal _)

namespace Single

theorem leadsDigit_positionalDigits {digits : List Char} (hne : digits ≠ [])
    (hdigits : ∀ c ∈ digits, c.isDigit = true) (point : Int) (wholePoint : Bool) :
    LeadsDigit (positionalDigits digits point wholePoint) := by
  have hzeros : ∀ n, ∀ c ∈ List.replicate n '0', c.isDigit = true := fun n c hc => by
    rw [List.eq_of_mem_replicate hc]
    rfl
  unfold positionalDigits
  split
  · have hfraction : ∀ c ∈ '.' :: List.replicate (-point).toNat '0', isNumberChar c = true :=
      List.forall_mem_cons.mpr ⟨rfl, fun c hc => isNumberChar_of_isDigit (hzeros _ c hc)⟩
    have hfront : LeadsDigit ('0' :: '.' :: List.replicate (-point).toNat '0') :=
      leadsDigit_append leadsDigit_zero hfraction
    exact leadsDigit_append hfront fun c hc => isNumberChar_of_isDigit (hdigits c hc)
  · next hpoint =>
    have hwhole : LeadsDigit (digits.take point.toNat ++
        List.replicate (point.toNat - (digits.take point.toNat).length) '0') := by
      refine leadsDigit_of_digits ?_ (List.forall_mem_append.mpr
        ⟨fun c hc => hdigits c (List.mem_of_mem_take hc), hzeros _⟩)
      have hpos : 0 < point.toNat := by omega
      obtain ⟨c, digits, rfl⟩ := List.exists_cons_of_ne_nil hne
      obtain ⟨n, hn⟩ : ∃ n, point.toNat = n + 1 := ⟨point.toNat - 1, by omega⟩
      rw [hn]
      nofun
    dsimp only
    split
    · split
      · exact leadsDigit_append hwhole (List.all_eq_true.mp (by decide))
      · exact hwhole
    · exact leadsDigit_append hwhole (List.forall_mem_cons.mpr ⟨rfl, fun c hc =>
        isNumberChar_of_isDigit (hdigits c (List.mem_of_mem_drop hc))⟩)

theorem leadsDigit_scientificDigits {digits : List Char} (hne : digits ≠ [])
    (hdigits : ∀ c ∈ digits, c.isDigit = true) (exponent : Int) :
    LeadsDigit (scientificDigits digits exponent) := by
  unfold scientificDigits
  refine leadsDigit_append ?_ (List.forall_mem_cons.mpr
    ⟨rfl, fun c hc => isNumberChar_of_mem_integerText hc⟩)
  obtain ⟨c, digits, rfl⟩ := List.exists_cons_of_ne_nil hne
  cases digits with
  | nil => exact leadsDigit_of_digits hne hdigits
  | cons d more =>
    have hfirst : LeadsDigit [c] :=
      leadsDigit_of_digits (by simp) (by simpa using hdigits c List.mem_cons_self)
    exact leadsDigit_append hfirst (List.forall_mem_cons.mpr ⟨rfl, fun e he =>
      isNumberChar_of_isDigit (hdigits e (List.mem_cons_of_mem c he))⟩)

theorem leadsDigit_magnitudeText (layout : Layout) (code : Nat) :
    LeadsDigit (magnitudeText layout code) := by
  unfold magnitudeText
  split
  · split
    · exact leadsDigit_append leadsDigit_zero (List.all_eq_true.mp (by decide))
    · exact leadsDigit_zero
  · have hdigits : ∀ c ∈ decimal (shortest layout.tie code).digits, c.isDigit = true :=
      fun _ => isDigit_of_mem_decimal
    dsimp only
    split
    · exact leadsDigit_positionalDigits Nat.toDigits_ne_nil hdigits _ _
    · exact leadsDigit_scientificDigits Nat.toDigits_ne_nil hdigits _

theorem isNumeral_text (layout : Layout) (negative : Bool) (code : Fin single.size) :
    IsNumeral (text layout (.finite negative code)).toList := by
  rw [text, String.toList_ofList]
  cases negative with
  | false => exact .inl (leadsDigit_magnitudeText ..)
  | true => exact .inr ⟨_, rfl, leadsDigit_magnitudeText ..⟩

end Single
end ServerLogin.Number
