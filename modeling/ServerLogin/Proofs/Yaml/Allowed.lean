import ServerLogin.Proofs.Yaml.Scalars

/-!
A written mapping holds no character that a document may not hold: what does not
show is escaped.
-/

namespace ServerLogin.Yaml

open ServerLogin.Number ServerLogin.Text

theorem isAllowed_of_isShowable {c : Char} (h : isShowable c = true) : isAllowed c = true := by
  simp only [isShowable, Bool.or_eq_true, Bool.and_eq_true, beq_iff_eq, decide_eq_true_eq] at h
  simp only [isAllowed, Bool.or_eq_true, Bool.and_eq_true, beq_iff_eq, decide_eq_true_eq]
  omega

theorem isAllowed_of_isHex {c : Char} (h : isHex c = true) : isAllowed c = true := by
  have hrange : 0x20 ≤ c.toNat ∧ c.toNat ≤ 0x7E := by
    unfold isHex isDigitIn digitValue at h
    split at h
    · next d hd =>
      split at hd
      · next hdigit => exact ⟨le_trans (by decide) hdigit.1, le_trans hdigit.2 (by decide)⟩
      · split at hd
        · next hdigit => exact ⟨le_trans (by decide) hdigit.1, le_trans hdigit.2 (by decide)⟩
        · split at hd
          · next hdigit => exact ⟨le_trans (by decide) hdigit.1, le_trans hdigit.2 (by decide)⟩
          · cases hd
    · cases h
  simp only [isAllowed, Bool.or_eq_true, Bool.and_eq_true, beq_iff_eq, decide_eq_true_eq]
  omega

theorem isAllowed_of_isNumeral {cs : List Char} (h : IsNumeral cs) {c : Char} (hc : c ∈ cs) :
    isAllowed c = true := by
  have hshow := (plainRest_of_fitsPlain (fitsPlain_of_isNumeral h)).showable
  exact isAllowed_of_isShowable (hshow c hc).1

theorem eq_space_of_mem_margin {afterBreak : Bool} {c : Char}
    (h : c ∈ if afterBreak then margin else []) : c = ' ' := by
  cases afterBreak with
  | false => cases h
  | true => simpa [margin] using h

theorem mem_of_mem_singleBody {afterBreak : Bool} {cs : List Char} {c : Char}
    (h : c ∈ singleBody afterBreak cs) : c ∈ cs ∨ c = ' ' := by
  induction cs generalizing afterBreak with
  | nil => exact .inr (eq_space_of_mem_margin h)
  | cons d cs ih =>
    rw [singleBody] at h
    split at h
    · rcases List.mem_cons.mp h with rfl | h
      · exact .inl List.mem_cons_self
      · exact (ih h).imp_left (List.mem_cons_of_mem d)
    · rw [List.append_assoc, List.mem_append, List.mem_append] at h
      rcases h with h | h | h
      · exact .inr (eq_space_of_mem_margin h)
      · left
        split at h <;> simp_all
      · exact (ih h).imp_left (List.mem_cons_of_mem d)

theorem mem_of_mem_literalBody {afterBreak : Bool} {cs : List Char} {c : Char}
    (h : c ∈ literalBody afterBreak cs) : c ∈ cs ∨ c = ' ' := by
  induction cs generalizing afterBreak with
  | nil => cases h
  | cons d cs ih =>
    rw [literalBody] at h
    split at h
    · rcases List.mem_cons.mp h with rfl | h
      · exact .inl List.mem_cons_self
      · exact (ih h).imp_left (List.mem_cons_of_mem d)
    · rw [List.mem_append, List.mem_cons] at h
      rcases h with h | rfl | h
      · exact .inr (eq_space_of_mem_margin h)
      · exact .inl List.mem_cons_self
      · exact (ih h).imp_left (List.mem_cons_of_mem d)

theorem isAllowed_of_mem_paddedHex {width n : Nat} {c : Char} (h : c ∈ paddedHex width n) :
    isAllowed c = true := by
  rw [paddedHex_eq, List.mem_append] at h
  rcases h with h | h
  · rw [List.eq_of_mem_replicate h]
    decide
  · exact isAllowed_of_isHex (isHex_of_mem_capitalDigits h)

theorem isAllowed_of_mem_doubleChar {c d : Char} (h : d ∈ doubleChar c) : isAllowed d = true := by
  have hcoded : ∀ {mark : Char} {width : Nat}, isAllowed mark = true →
      d ∈ '\\' :: mark :: paddedHex width c.toNat → isAllowed d = true := by
    intro mark width hmark h
    rcases List.mem_cons.mp h with rfl | h
    · decide
    · rcases List.mem_cons.mp h with rfl | h
      · exact hmark
      · exact isAllowed_of_mem_paddedHex h
  unfold doubleChar at h
  split at h
  · next hshown =>
    simp only [Bool.and_eq_true] at hshown
    rw [List.mem_singleton.mp h]
    exact isAllowed_of_isShowable hshown.1.1.1
  · split at h
    all_goals first
      | exact List.all_eq_true.mp (by decide) d h
      | skip
    split at h
    · exact hcoded (by decide) h
    · split at h
      · exact hcoded (by decide) h
      · exact hcoded (by decide) h

theorem isAllowed_of_mem_literalHints {cs : List Char} {c : Char} (h : c ∈ literalHints cs) :
    isAllowed c = true := by
  have hhint : c = '2' ∨ c = '-' ∨ c = '+' := by
    unfold literalHints at h
    rw [List.mem_append] at h
    rcases h with h | h
    · left
      split at h <;> simp_all
    · right
      split at h
      · exact .inl (List.mem_singleton.mp h)
      · split at h <;> simp_all
      · split at h
        · exact .inl (List.mem_singleton.mp h)
        · split at h <;> simp_all
  rcases hhint with rfl | rfl | rfl <;> decide

theorem isAllowed_of_mem_writeText {text : String} {c : Char} (h : c ∈ (writeText text).toList) :
    isAllowed c = true := by
  have hlegible : isLegible text.toList = true → ∀ d, (d ∈ text.toList ∨ d = ' ') →
      isAllowed d = true := by
    intro hlegible d hd
    rw [isLegible, Bool.and_eq_true, List.all_eq_true] at hlegible
    rcases hd with hd | rfl
    · exact isAllowed_of_isShowable (hlegible.1 d hd)
    · decide
  have hfeed : isAllowed '\n' = true := by decide
  rw [toList_writeText] at h
  rcases styleOf_cases text with ⟨hstyle, hfits, _⟩ | ⟨hstyle, hfits, _⟩ | ⟨hstyle, hfits, _⟩ |
    hstyle
  · rw [hstyle] at h
    rw [fitsLiteral, Bool.and_eq_true] at hfits
    simp only [List.mem_cons, List.mem_append] at h
    rcases h with rfl | h | rfl | h | h
    · decide
    · exact isAllowed_of_mem_literalHints h
    · exact hfeed
    · exact hlegible hfits.1 c (mem_of_mem_literalBody h)
    · rw [ending] at h
      split at h
      · cases h
      · exact List.mem_singleton.mp h ▸ hfeed
  · rw [hstyle] at h
    simp only [fitsPlain, Bool.and_eq_true] at hfits
    rcases List.mem_append.mp h with h | h
    · exact hlegible hfits.1.1.1.1.1 c (.inl h)
    · exact List.mem_singleton.mp h ▸ hfeed
  · rw [hstyle] at h
    rw [fitsSingle, Bool.and_eq_true] at hfits
    simp only [List.mem_cons, List.mem_append, List.not_mem_nil, or_false] at h
    rcases h with rfl | h | rfl | rfl
    · decide
    · exact hlegible hfits.1 c (mem_of_mem_singleBody h)
    · decide
    · exact hfeed
  · rw [hstyle] at h
    simp only [List.mem_cons, List.mem_append, List.mem_flatMap, List.not_mem_nil, or_false] at h
    rcases h with rfl | ⟨d, _, h⟩ | rfl | rfl
    · decide
    · exact isAllowed_of_mem_doubleChar h
    · decide
    · exact hfeed

theorem isAllowed_of_mem_write {content : Content} {c : Char} (h : c ∈ content.write.toList) :
    isAllowed c = true := by
  have hline : ∀ text : String, c ∈ (text ++ "\n").toList →
      (∀ d ∈ text.toList, isAllowed d = true) → isAllowed c = true := by
    intro text h hall
    rw [String.toList_append, List.mem_append] at h
    rcases h with h | h
    · exact hall c h
    · exact List.all_eq_true.mp (by decide) c h
  cases content with
  | text s => exact isAllowed_of_mem_writeText h
  | bool b => cases b <;> exact hline _ h (List.all_eq_true.mp (by decide))
  | integer n => exact hline _ h fun _ hd => isAllowed_of_isNumeral (isNumeral_integerText n) hd
  | number x =>
    cases x with
    | nan => exact hline _ h (List.all_eq_true.mp (by decide))
    | infinity negative => cases negative <;> exact hline _ h (List.all_eq_true.mp (by decide))
    | finite negative code =>
      exact hline _ h fun _ hd =>
        isAllowed_of_isNumeral (Single.isNumeral_text .document negative code) hd

end ServerLogin.Yaml
