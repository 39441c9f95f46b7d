import Mathlib
import ServerLogin.Yaml.Writer

/-!
Texts as words and gaps.  A scalar that is not a literal block is read word by
word: a word, the gap behind it, and so on.  `Pieces` is that division of a text,
where a gap is a run of spaces or a run of line breaks; every text without mixed
gaps has one.  The rest of this file says how a gap is read back.
-/

namespace ServerLogin.Yaml

def isGap (c : Char) : Bool := isBlank c || isBreak c

theorem atGap_cons (c : Char) (rest : List Char) : atGap (c :: rest) = isGap c := rfl

/-- Of the characters that show, the line breaks are the line feed and the two
separators, which stay what they are when they are read. -/
theorem normalBreak_of_showable {c : Char} (hshow : isShowable c = true)
    (hbreak : isBreak c = true) : normalBreak c = c ∧ c ≠ '\r' := by
  have hcarriage : c ≠ '\r' := by
    rintro rfl
    exact absurd hshow (by decide)
  simp only [isBreak, Bool.or_eq_true, beq_iff_eq] at hbreak
  refine ⟨?_, hcarriage⟩
  rcases hbreak with (((rfl | hc) | hc) | hc) | hc
  · rfl
  · exact absurd hc hcarriage
  · have hnot : isShowable c = false := by simp [isShowable, hc]
    rw [hnot] at hshow
    cases hshow
  · simp [normalBreak, hc]
  · simp [normalBreak, hc]

theorem isBlank_of_showable {c : Char} (hshow : isShowable c = true) (hblank : isBlank c = true) :
    c = ' ' := by
  simp only [isBlank, Bool.or_eq_true, beq_iff_eq] at hblank
  rcases hblank with hc | rfl
  · exact hc
  · exact absurd hshow (by decide)

theorem hasPair_eq_false_iff {p : Char → Char → Bool} {cs : List Char} :
    hasPair p cs = false ↔ cs.IsChain fun a b => p a b = false := by
  induction cs with
  | nil => simp [hasPair]
  | cons a cs ih =>
    cases cs with
    | nil => simp [hasPair]
    | cons b cs => rw [hasPair, Bool.or_eq_false_iff, ih, List.isChain_cons_cons]

/-- A gap of one kind: spaces or line breaks. -/
inductive Run : List Char → Prop
  | blanks (n : Nat) : Run (List.replicate (n + 1) ' ')
  | breaks {bs : List Char} (hne : bs ≠ []) (hbs : ∀ b ∈ bs, isBreak b = true) : Run bs

theorem Run.exists_cons {gap : List Char} (h : Run gap) : ∃ c rest, gap = c :: rest := by
  cases h with
  | blanks n => exact ⟨' ', List.replicate n ' ', rfl⟩
  | breaks hne _ => exact List.exists_cons_of_ne_nil hne

/-- Whether a text does not begin with a gap character. -/
def StartsWord (sep : Char → Bool) (cs : List Char) : Prop := ∀ c ∈ cs.head?, sep c = false

/-- A text as words, perhaps empty, with gaps between them and at the end. -/
inductive Pieces (sep : Char → Bool) : List Char → Prop
  | word {w : List Char} (hw : ∀ c ∈ w, sep c = false) : Pieces sep w
  | more {w gap rest : List Char} (hw : ∀ c ∈ w, sep c = false) (hgap : Run gap)
      (hsep : ∀ c ∈ gap, sep c = true) (hstart : StartsWord sep rest) (hrest : Pieces sep rest) :
      Pieces sep (w ++ (gap ++ rest))

/-- Whether two neighbours belong to one gap but are of different kinds. -/
def Alike (sep : Char → Bool) (a b : Char) : Prop :=
  sep a = true → sep b = true → (a = ' ' ∧ b = ' ') ∨ (isBreak a = true ∧ isBreak b = true)

theorem Run.cons {sep : Char → Bool} {c b : Char} {gap : List Char} (hc : sep c = true)
    (hb : sep b = true) (halike : Alike sep c b) (h : Run (b :: gap)) : Run (c :: b :: gap) := by
  rcases halike hc hb with ⟨rfl, rfl⟩ | ⟨hcbreak, hbbreak⟩
  · generalize hrun : ' ' :: gap = run at h
    cases h with
    | blanks n => exact .blanks (n + 1)
    | breaks hne hbs =>
      subst hrun
      exact absurd (hbs ' ' List.mem_cons_self) (by decide)
  · generalize hrun : b :: gap = run at h
    cases h with
    | blanks n =>
      cases hrun
      exact absurd hbbreak (by decide)
    | breaks hne hbs =>
      exact .breaks nofun (List.forall_mem_cons.mpr ⟨hcbreak, hbs⟩)

/-- A text has pieces when its separators are spaces and line breaks, never mixed in
one gap. -/
theorem pieces_of_chain {sep : Char → Bool} {cs : List Char}
    (hsep : ∀ c ∈ cs, sep c = true → c = ' ' ∨ isBreak c = true)
    (hchain : cs.IsChain (Alike sep)) : Pieces sep cs := by
  induction cs with
  | nil => exact .word (w := []) (by simp)
  | cons c cs ih =>
    have hrest := ih (fun d hd => hsep d (List.mem_cons_of_mem c hd)) hchain.tail
    by_cases hc : sep c = true
    · have hrun : Run [c] := by
        rcases hsep c List.mem_cons_self hc with rfl | hbreak
        · exact .blanks 0
        · exact .breaks nofun (by simpa using hbreak)
      cases hrest with
      | word hw =>
        refine @Pieces.more sep [] [c] cs (by simp) hrun (by simpa using hc) ?_ (.word hw)
        exact fun d hd => hw d (List.mem_of_mem_head? hd)
      | @more w gap rest hw hgap hgapsep hstart hrest =>
        cases w with
        | cons d w =>
          refine @Pieces.more sep [] [c] _ (by simp) hrun (by simpa using hc) ?_
            (.more hw hgap hgapsep hstart hrest)
          intro e he
          cases he
          exact hw d List.mem_cons_self
        | nil =>
          obtain ⟨b, gap, rfl⟩ := hgap.exists_cons
          have hb := hgapsep b List.mem_cons_self
          have halike : Alike sep c b := (List.isChain_cons_cons.mp hchain).1
          exact @Pieces.more sep [] (c :: b :: gap) _ (by simp) (hgap.cons hc hb halike)
            (List.forall_mem_cons.mpr ⟨hc, hgapsep⟩) hstart hrest
    · have hc' : sep c = false := by simpa using hc
      cases hrest with
      | word hw => exact .word (List.forall_mem_cons.mpr ⟨hc', hw⟩)
      | more hw hgap hgapsep hstart hrest =>
        exact .more (w := c :: _) (List.forall_mem_cons.mpr ⟨hc', hw⟩) hgap hgapsep hstart hrest

end ServerLogin.Yaml
