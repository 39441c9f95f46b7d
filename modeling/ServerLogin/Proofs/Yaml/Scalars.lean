import ServerLogin.Proofs.Number.Layout
import ServerLogin.Proofs.Yaml.Lexer

/-!
The values of a mapping are read back as scalars, in whatever style they are
written.
-/

namespace ServerLogin.Yaml

open ServerLogin.Number ServerLogin.Text

theorem toNat_of_isNumberChar {c : Char} (h : isNumberChar c = true) :
    45 ≤ c.toNat ∧ c.toNat ≤ 101 := by
  simp only [isNumberChar, Bool.or_eq_true, beq_iff_eq] at h
  rcases h with ((h | rfl) | rfl) | rfl
  · simp only [Char.isDigit, Bool.and_eq_true, decide_eq_true_eq, ge_iff_le,
      UInt32.le_iff_toNat_le] at h
    change 48 ≤ c.toNat ∧ c.toNat ≤ 57 at h
    omega
  · decide
  · decide
  · decide

theorem ne_of_isNumberChar {c d : Char} (hc : isNumberChar c = true) (hd : isNumberChar d = false) :
    c ≠ d := by
  rintro rfl
  rw [hc] at hd
  cases hd

theorem isShowable_of_isNumberChar {c : Char} (h : isNumberChar c = true) :
    isShowable c = true := by
  have hrange := toNat_of_isNumberChar h
  simp only [isShowable, Bool.or_eq_true, Bool.and_eq_true, decide_eq_true_eq]
  exact .inl (.inl (.inr ⟨by omega, by omega⟩))

theorem isGap_of_isNumberChar {c : Char} (h : isNumberChar c = true) : isGap c = false := by
  have hrange := toNat_of_isNumberChar h
  simp only [isGap, isBlank, isBreak, Bool.or_eq_false_iff, beq_eq_false_iff_ne]
  refine ⟨⟨ne_of_isNumberChar h (by decide), ne_of_isNumberChar h (by decide)⟩, ?_⟩
  exact ⟨⟨⟨⟨ne_of_isNumberChar h (by decide), ne_of_isNumberChar h (by decide)⟩, by omega⟩,
    by omega⟩, by omega⟩

theorem startsOtherwise_of_isNumeral {cs : List Char} (h : IsNumeral cs) :
    startsOtherwise cs = false := by
  have hall := h.isNumberChar
  obtain ⟨c, rest, rfl, hdash, hdot⟩ := h.eq_cons
  have hc := hall c List.mem_cons_self
  have hspecial : ("#,[]\x7b\x7d&*!|>\x27\"%@\x60".toList.contains c) = false := by
    rw [Bool.eq_false_iff]
    intro hmem
    have hother : "#,[]\x7b\x7d&*!|>\x27\"%@\x60".toList.all (!isNumberChar ·) = true := by decide
    have hnot := List.all_eq_true.mp hother c (List.contains_iff_mem.mp hmem)
    rw [hc] at hnot
    cases hnot
  have hquestion : c ≠ '?' := ne_of_isNumberChar hc (by decide)
  have hcolon : c ≠ ':' := ne_of_isNumberChar hc (by decide)
  have hdotted : ('.' == c) = false := beq_eq_false_iff_ne.mpr (Ne.symm hdot)
  rw [startsOtherwise, hspecial]
  by_cases hc : c = '-'
  · obtain ⟨d, more, rfl, hdigit⟩ := hdash hc
    have hgap := isGap_of_isNumberChar (hall d (by simp))
    have hdashed : ('-' == d) = false :=
      beq_eq_false_iff_ne.mpr (ne_of_isDigit hdigit (by decide)).symm
    simp [atGap_cons, hgap, List.isPrefixOf, hdotted, hdashed]
  · have hdashed : ('-' == c) = false := beq_eq_false_iff_ne.mpr (Ne.symm hc)
    simp [hc, List.isPrefixOf, hdotted, hdashed, hquestion, hcolon]

theorem fitsPlain_of_isNumeral {cs : List Char} (h : IsNumeral cs) : fitsPlain cs = true := by
  have hall := h.isNumberChar
  have hnot : ∀ d : Char, isNumberChar d = false → d ∉ cs := fun d hd hmem =>
    ne_of_isNumberChar (hall d hmem) hd rfl
  have hbreak : ∀ c ∈ cs, isBreak c = false := fun c hc =>
    (isGap_eq_false_iff.mp (isGap_of_isNumberChar (hall c hc))).2
  have hpair : ∀ p : Char → Char → Bool, (∀ a ∈ cs, ∀ b ∈ cs, p a b = false) →
      hasPair p cs = false := fun p hp =>
    hasPair_eq_false_iff.mpr (List.pairwise_of_forall_mem_list hp).isChain
  have hlegible : isLegible cs = true := by
    have hshow : ∀ c ∈ cs, isShowable c = true := fun c hc => isShowable_of_isNumberChar (hall c hc)
    rw [isLegible, List.all_eq_true.mpr hshow, hpair]
    · rfl
    · exact fun a _ b hb => by rw [hbreak b hb, Bool.and_false]
  have hmark : hasMark cs = false := by
    have hlast : (cs.getLast? == some ':') = false :=
      beq_eq_false_iff_ne.mpr fun hlast => hnot ':' (by decide) (List.mem_of_getLast? hlast)
    rw [hasMark, hlast, hpair]
    · rfl
    · intro a ha b hb
      have hcolon : (a == ':') = false :=
        beq_eq_false_iff_ne.mpr (ne_of_isNumberChar (hall a ha) (by decide))
      have hhash : (b == '#') = false :=
        beq_eq_false_iff_ne.mpr (ne_of_isNumberChar (hall b hb) (by decide))
      rw [hcolon, hhash, Bool.false_and, Bool.and_false, Bool.or_false]
  have hhead : (cs.head? != some ' ') = true :=
    bne_iff_ne.mpr fun hhead => hnot ' ' (by decide) (List.mem_of_mem_head? hhead)
  have hlast : (cs.getLast? != some ' ') = true :=
    bne_iff_ne.mpr fun hlast => hnot ' ' (by decide) (List.mem_of_getLast? hlast)
  rw [fitsPlain, hlegible, List.any_eq_false.mpr (fun c hc => by rw [hbreak c hc]; simp), hhead,
    hlast, startsOtherwise_of_isNumeral h, hmark]
  rfl

theorem styleOf_cases (text : String) :
    (styleOf text = .literal ∧ fitsLiteral text.toList = true ∧ text.toList ≠ []) ∨
    (styleOf text = .plain ∧ fitsPlain text.toList = true ∧ isOtherKind text = false) ∨
    (styleOf text = .singleQuoted ∧ fitsSingle text.toList = true ∧ '\n' ∉ text.toList) ∨
    styleOf text = .doubleQuoted := by
  unfold styleOf
  dsimp only
  split
  · next hfeed =>
    have hfeed := List.contains_iff_mem.mp hfeed
    split
    · next hfits => exact .inl ⟨rfl, hfits, List.ne_nil_of_mem hfeed⟩
    · exact .inr (.inr (.inr rfl))
  · next hfeed =>
    have hfeed : '\n' ∉ text.toList := fun hmem => hfeed (List.contains_iff_mem.mpr hmem)
    split
    · next hfits =>
      rw [Bool.and_eq_true, Bool.not_eq_true'] at hfits
      exact .inr (.inl ⟨rfl, hfits.2, hfits.1⟩)
    · split
      · next hfits => exact .inr (.inr (.inl ⟨rfl, hfits, hfeed⟩))
      · exact .inr (.inr (.inr rfl))

theorem ne_nil_of_isOtherKind {text : String} (h : isOtherKind text = false) :
    text.toList ≠ [] := by
  intro hnil
  have hempty : text = "" := String.toList_inj.mp hnil
  rw [hempty] at h
  exact absurd h (by decide)

/-- A text as it is written, by its style. -/
theorem toList_writeText (text : String) :
    (writeText text).toList = match styleOf text with
      | .literal =>
        '|' :: (literalHints text.toList ++
          '\n' :: (literalBody true text.toList ++ ending text.toList))
      | .singleQuoted => '\x27' :: (singleBody false text.toList ++ ['\x27', '\n'])
      | .doubleQuoted => '"' :: (text.toList.flatMap doubleChar ++ ['"', '\n'])
      | _ => text.toList ++ ['\n'] := by
  rw [writeText, String.toList_ofList]
  cases styleOf text with
  | literal => simp [ending]
  | singleQuoted => rfl
  | doubleQuoted => rfl
  | plain => rfl
  | folded => rfl

namespace Lexer

/-- A text is read as the scalar it is written as. -/
theorem run_text {l : Lexer} {text : String} {rest : List Char}
    (h : l.AtValue ((writeText text).toList ++ rest)) (hrest : StartsField rest) :
    ∃ l' : Lexer, Leads 1 l l' ∧ l'.AtLine rest ∧ l'.indents = [0] ∧
      l'.tokens = l.tokens.push (.scalar text (styleOf text)) := by
  rw [toList_writeText] at h
  have hofList : String.ofList text.toList = text := String.ofList_toList
  rcases styleOf_cases text with ⟨hstyle, hfits, hne⟩ | ⟨hstyle, hfits, hkind⟩ |
    ⟨hstyle, hfits, hfeed⟩ | hstyle
  · rw [hstyle] at h ⊢
    simp only [List.cons_append, List.append_assoc] at h
    have hread := run_literal h hfits hne hrest
    rwa [hofList] at hread
  · rw [hstyle] at h ⊢
    simp only [List.append_assoc] at h
    have hread := run_plain h hfits (ne_nil_of_isOtherKind hkind) hrest
    rwa [hofList] at hread
  · rw [hstyle] at h ⊢
    simp only [List.cons_append, List.append_assoc] at h
    have hquote : ('\n' :: rest).head? ≠ some '\x27' := by simp
    have hread := run_quoted true h (readQuotedScalar_single hfits hfeed hquote) hrest
    rwa [hofList] at hread
  · rw [hstyle] at h ⊢
    simp only [List.cons_append, List.append_assoc] at h
    have hread := run_quoted false h (readQuotedScalar_double text.toList ('\n' :: rest)) hrest
    rwa [hofList] at hread

/-- A value of any kind is read as its scalar. -/
theorem run_value {l : Lexer} {content : Content} {rest : List Char}
    (h : l.AtValue (content.write.toList ++ rest)) (hrest : StartsField rest) :
    ∃ l' : Lexer, Leads 1 l l' ∧ l'.AtLine rest ∧ l'.indents = [0] ∧
      l'.tokens = l.tokens.push (.scalar content.scalar.text content.scalar.style) := by
  have hplain : ∀ text : String, l.AtValue ((text ++ "\n").toList ++ rest) →
      fitsPlain text.toList = true → text.toList ≠ [] →
      ∃ l' : Lexer, Leads 1 l l' ∧ l'.AtLine rest ∧ l'.indents = [0] ∧
        l'.tokens = l.tokens.push (.scalar text .plain) := by
    intro text h hfits hne
    rw [String.toList_append, List.append_assoc] at h
    have hread := run_plain h hfits hne hrest
    rwa [String.ofList_toList] at hread
  cases content with
  | text s => exact run_text h hrest
  | bool b => cases b <;> exact hplain _ h (by decide) (by decide)
  | integer n =>
    have hnumeral := isNumeral_integerText n
    exact hplain _ h (fitsPlain_of_isNumeral hnumeral) hnumeral.ne_nil
  | number x =>
    cases x with
    | nan => exact hplain _ h (by decide) (by decide)
    | infinity negative => cases negative <;> exact hplain _ h (by decide) (by decide)
    | finite negative code =>
      have hnumeral := Single.isNumeral_text .document negative code
      exact hplain _ h (fitsPlain_of_isNumeral hnumeral) hnumeral.ne_nil

end Lexer
end ServerLogin.Yaml
