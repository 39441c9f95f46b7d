import ServerLogin.Proofs.Yaml.Gap

/-!
Plain scalars are read back: a text that may be written without quotes is read
from there to the end of its line.
-/

namespace ServerLogin.Yaml

/-- Neighbours of which the second would end a plain scalar. -/
def isMark (a b : Char) : Bool := (a == ':' && isGap b) || (isGap a && b == '#')

/-- What is left of a plain scalar, from some word on. -/
structure PlainRest (cs : List Char) : Prop where
  showable : ∀ c ∈ cs, isShowable c = true ∧ isBreak c = false
  unmarked : cs.IsChain fun a b => isMark a b = false
  blankEnd : cs.getLast? ≠ some ' '
  colonEnd : cs.getLast? ≠ some ':'

theorem plainRest_of_fitsPlain {cs : List Char} (h : fitsPlain cs = true) : PlainRest cs := by
  simp only [fitsPlain, isLegible, hasMark, Bool.and_eq_true, Bool.not_eq_true',
    Bool.or_eq_false_iff, List.all_eq_true, List.any_eq_false, bne_iff_ne, beq_eq_false_iff_ne,
    Bool.not_eq_true] at h
  obtain ⟨⟨⟨⟨⟨⟨hshow, _⟩, hbreak⟩, _⟩, hblank⟩, _⟩, hmark, hcolon⟩ := h
  exact ⟨fun c hc => ⟨hshow c hc, hbreak c hc⟩, hasPair_eq_false_iff.mp hmark, hblank, hcolon⟩

theorem PlainRest.of_append {front back : List Char} (h : PlainRest (front ++ back))
    (hne : back ≠ []) : PlainRest back := by
  have hlast : (front ++ back).getLast? = back.getLast? := by
    rw [List.getLast?_append]
    cases hback : back.getLast? with
    | none => exact absurd (List.getLast?_eq_none_iff.mp hback) hne
    | some c => rfl
  exact ⟨fun c hc => h.showable c (List.mem_append_right front hc),
    h.unmarked.right_of_append, hlast ▸ h.blankEnd, hlast ▸ h.colonEnd⟩

/-- What the words around a run of spaces are like: the one before does not end in a
colon, and there is one behind, which does not begin with a number sign. -/
theorem PlainRest.of_blanks {w rest : List Char} {n : Nat}
    (h : PlainRest (w ++ (List.replicate (n + 1) ' ' ++ rest))) :
    w.getLast? ≠ some ':' ∧ rest ≠ [] ∧ rest.head? ≠ some '#' ∧ PlainRest rest := by
  have hne : rest ≠ [] := by
    rintro rfl
    refine h.blankEnd ?_
    rw [List.append_nil, List.replicate_succ', ← List.append_assoc, List.getLast?_concat]
  refine ⟨fun hcolon => ?_, hne, fun hhash => ?_, (List.append_assoc .. ▸ h).of_append hne⟩
  · obtain ⟨front, rfl⟩ := List.getLast?_eq_some_iff.mp hcolon
    have hchain := h.unmarked
    rw [List.append_assoc, List.singleton_append, List.replicate_succ, List.cons_append] at hchain
    exact absurd (List.isChain_cons_cons.mp hchain.right_of_append).1 (by decide)
  · obtain ⟨tail, rfl⟩ : ∃ tail, rest = '#' :: tail := List.head?_eq_some_iff.mp hhash
    have hchain := h.unmarked.right_of_append
    rw [List.replicate_succ', List.append_assoc, List.singleton_append] at hchain
    exact absurd (List.isChain_cons_cons.mp hchain.right_of_append).1 (by decide)

/-- Where a word ends: at a gap, or at a colon with a gap behind it. -/
def EndsWord (tail : List Char) : Prop :=
  atGap tail = true ∨ ∃ rest, tail = ':' :: rest ∧ atGap rest = true

/-- A word is read up to its end. -/
theorem readWord_append {w tail : List Char} (acc : List Char)
    (hw : ∀ c ∈ w, isGap c = false) (hcolon : w.getLast? ≠ some ':') (htail : EndsWord tail) :
    readWord false acc (w ++ tail) = .ok (w.reverse ++ acc, tail) := by
  induction w generalizing acc with
  | nil =>
    rcases htail with hgap | ⟨rest, rfl, hgap⟩
    · cases tail with
      | nil => rfl
      | cons c tail =>
        rw [List.nil_append, readWord, if_pos (show (isBlank c || isBreak c) = true from hgap)]
        rfl
    · rw [List.nil_append, readWord]
      simp [show isBlank ':' = false by decide, show isBreak ':' = false by decide, hgap]
  | cons c w ih =>
    obtain ⟨hc, hw⟩ := List.forall_mem_cons.mp hw
    obtain ⟨hblank, hbreak⟩ := isGap_eq_false_iff.mp hc
    have hstop : (c == ':' && atGap (w ++ tail)) = false := by
      cases w with
      | nil =>
        have hne : c ≠ ':' := by simpa using hcolon
        simp [hne]
      | cons d w => rw [List.cons_append, atGap_cons, hw d List.mem_cons_self, Bool.and_false]
    have hcolon' : w.getLast? ≠ some ':' := by
      cases w with
      | nil => nofun
      | cons d w => rwa [List.getLast?_cons_cons] at hcolon
    rw [List.cons_append, readWord]
    simp only [hblank, hbreak, hstop, Bool.false_and, Bool.or_self, Bool.false_eq_true, if_false]
    rw [ih (c :: acc) hw hcolon', List.reverse_cons, List.append_assoc, List.singleton_append]

theorem readPlain_word {w tail : List Char} (steps : Nat) (text : List Char) (gap : Gap)
    (p : Position) (hp : (p.column == 0 && atDocumentMark (w ++ tail)) = false) (hne : w ≠ [])
    (hw : ∀ c ∈ w, isGap c = false) (hcomment : w.head? ≠ some '#')
    (hcolon : w.getLast? ≠ some ':') (htail : EndsWord tail) (indent : Nat) :
    readPlain false indent (steps + 1) text gap ⟨p, w ++ tail⟩ =
      (let text := w.reverse ++ gap.text.reverse ++ text
        let c : Cursor := ⟨p.along w.length, tail⟩
        if tail.isEmpty || !atGap tail then .ok ⟨text.reverse, c, false⟩
        else (Gap.read indent {} c.position tail).bind fun (gap, c) =>
          if c.position.column < indent then .ok ⟨text.reverse, c, gap.hasBreak⟩
          else readPlain false indent steps text gap c) := by
  have hhead : (w ++ tail).head? = w.head? := by
    cases w with
    | nil => exact absurd rfl hne
    | cons c w => rfl
  have hnot : ((p.column == 0 && atDocumentMark (w ++ tail)) || (w ++ tail).head? == some '#')
      = false := by
    rw [hp, hhead, beq_eq_false_iff_ne.mpr hcomment]
    rfl
  have hempty : w.reverse.isEmpty = false := by simpa using hne
  rw [readPlain]
  simp only [hnot, Bool.false_eq_true, if_false, readWord_append [] hw hcolon htail,
    List.append_nil, bind, Except.bind, hempty, List.length_reverse, Bool.not_false, Bool.true_and,
    decide_eq_true_eq]
  rfl

/-- The last word of a plain scalar is read, with the end of its line. -/
theorem readPlain_last {w rest : List Char} (steps : Nat) (text : List Char) (gap : Gap)
    (p : Position) (hp : p.column ≠ 0) (hne : w ≠ []) (hw : ∀ c ∈ w, isGap c = false)
    (hcomment : w.head? ≠ some '#') (hcolon : w.getLast? ≠ some ':')
    (hrest : StartsWord isGap rest) :
    readPlain false 1 (steps + 1) text gap ⟨p, w ++ '\n' :: rest⟩ =
      .ok ⟨text.reverse ++ gap.text ++ w, ⟨(p.along w.length).nextLine 1, rest⟩, true⟩ := by
  have hmark : (p.column == 0 && atDocumentMark (w ++ '\n' :: rest)) = false := by
    rw [beq_eq_false_iff_ne.mpr hp, Bool.false_and]
  have hbreak : Gap.read 1 {} (p.along w.length) ('\n' :: rest) =
      .ok ({ breaks := ['\n'] }, ⟨(p.along w.length).nextLine 1, rest⟩) := by
    rw [Gap.read]
    · simp only [show isBreak '\n' = true by decide, show normalBreak '\n' = '\n' by decide,
        if_true]
      exact Gap.read_word 1 _ _ hrest
    · exact fun _ hcarriage => absurd hcarriage (by decide)
  rw [readPlain_word steps text gap p hmark hne hw hcomment hcolon (.inl rfl)]
  simp only [hbreak, List.isEmpty_cons, atGap_cons, show isGap '\n' = true by decide,
    Bool.not_true, Bool.or_self, Bool.false_eq_true, if_false, Except.bind,
    Position.column_nextLine, Nat.zero_lt_one, if_true, List.reverse_append,
    List.reverse_reverse, List.append_assoc]
  rfl

/-- A word before spaces is read, and the spaces behind it. -/
theorem readPlain_blanks {w tail : List Char} (steps n : Nat) (text : List Char) (gap : Gap)
    (p : Position) (hp : p.column ≠ 0) (hne : w ≠ []) (hw : ∀ c ∈ w, isGap c = false)
    (hcomment : w.head? ≠ some '#') (hcolon : w.getLast? ≠ some ':')
    (htail : StartsWord isGap tail) :
    readPlain false 1 (steps + 1) text gap ⟨p, w ++ (List.replicate (n + 1) ' ' ++ tail)⟩ =
      readPlain false 1 steps (w.reverse ++ gap.text.reverse ++ text)
        { blanks := List.replicate (n + 1) ' ' } ⟨(p.along w.length).along (n + 1), tail⟩ := by
  have hmark : (p.column == 0 &&
      atDocumentMark (w ++ (List.replicate (n + 1) ' ' ++ tail))) = false := by
    rw [beq_eq_false_iff_ne.mpr hp, Bool.false_and]
  have hcolumn : ¬((p.along w.length).along (n + 1)).column < 1 := by
    rw [Position.column_along]
    omega
  have hspace : atGap (List.replicate (n + 1) ' ' ++ tail) = true := rfl
  rw [readPlain_word steps text gap p hmark hne hw hcomment hcolon (.inl hspace)]
  dsimp only
  rw [Gap.read_run_blanks 1 (n + 1) (p.along w.length) htail, hspace, List.replicate_succ,
    List.cons_append, List.isEmpty_cons, Bool.not_true, Bool.or_self, if_neg Bool.false_ne_true,
    Except.bind, if_neg hcolumn]

/-- A plain scalar is read up to the end of its line. -/
theorem readPlain_pieces {cs rest : List Char} (hpieces : Pieces isGap cs) (hcs : PlainRest cs)
    (hrest : StartsWord isGap rest) :
    ∀ (steps : Nat) (text : List Char) (gap : Gap) (p : Position), cs.length < steps →
      p.column ≠ 0 → cs ≠ [] → StartsWord isGap cs → cs.head? ≠ some '#' →
      ∃ q : Position, q.column = 0 ∧ readPlain false 1 steps text gap ⟨p, cs ++ '\n' :: rest⟩ =
        .ok ⟨text.reverse ++ gap.text ++ cs, ⟨q, rest⟩, true⟩ := by
  induction hpieces with
  | @word w hw =>
    intro steps text gap p hsteps hp hne _ hcomment
    obtain ⟨steps, rfl⟩ : ∃ n, steps = n + 1 := ⟨steps - 1, by omega⟩
    exact ⟨_, rfl, readPlain_last steps text gap p hp hne hw hcomment hcs.colonEnd hrest⟩
  | @more w run rest' hw hrun hsep hstart hpieces ih =>
    intro steps text gap p hsteps hp hne hword hcomment
    obtain ⟨steps, rfl⟩ : ∃ n, steps = n + 1 := ⟨steps - 1, by omega⟩
    cases hrun with
    | breaks hbs hbreaks =>
      obtain ⟨b, bs, rfl⟩ := List.exists_cons_of_ne_nil hbs
      have hb := (hcs.showable b (by simp)).2
      rw [hbreaks b List.mem_cons_self] at hb
      cases hb
    | blanks n =>
      have hwne : w ≠ [] := by
        rintro rfl
        exact absurd (hword ' ' rfl) (by decide)
      obtain ⟨c, w, rfl⟩ := List.exists_cons_of_ne_nil hwne
      obtain ⟨hcolon, hne', hcomment', hcs'⟩ := hcs.of_blanks
      obtain ⟨d, rest', rfl⟩ := List.exists_cons_of_ne_nil hne'
      have hlength : (d :: rest').length < steps := by
        simp only [List.length_append, List.length_replicate] at hsteps
        omega
      obtain ⟨q, hq, hread⟩ := ih hcs' steps ((c :: w).reverse ++ gap.text.reverse ++ text)
        { blanks := List.replicate (n + 1) ' ' } ((p.along (c :: w).length).along (n + 1)) hlength
        (by rw [Position.column_along]; omega) hne' hstart hcomment'
      have hbegin : StartsWord isGap (d :: rest' ++ '\n' :: rest) := hstart
      have hstep := readPlain_blanks steps n text gap p hp hwne hw hcomment hcolon hbegin
      refine ⟨q, hq, ?_⟩
      rw [List.append_assoc, List.append_assoc, hstep, hread, Gap.text_blanks]
      simp only [List.reverse_append, List.reverse_reverse, List.append_assoc]

theorem PlainScalar.read_of_fitsPlain {cs rest : List Char} (h : fitsPlain cs = true)
    (hne : cs ≠ []) (hrest : StartsWord isGap rest) {p : Position} (hp : p.column ≠ 0) :
    ∃ q : Position, q.column = 0 ∧
      PlainScalar.read false 1 ⟨p, cs ++ '\n' :: rest⟩ = .ok ⟨cs, ⟨q, rest⟩, true⟩ := by
  have hcs := plainRest_of_fitsPlain h
  have hspace : ∀ c ∈ cs, isGap c = true → c = ' ' := by
    intro c hc hgap
    obtain ⟨hshow, hbreak⟩ := hcs.showable c hc
    rw [isGap, hbreak, Bool.or_false] at hgap
    exact isBlank_of_showable hshow hgap
  have hpieces : Pieces isGap cs := pieces_of_chain (fun c hc hgap => .inl (hspace c hc hgap))
    (List.pairwise_of_forall_mem_list fun a ha b hb hagap hbgap =>
      .inl ⟨hspace a ha hagap, hspace b hb hbgap⟩).isChain
  simp only [fitsPlain, Bool.and_eq_true, bne_iff_ne, Bool.not_eq_true'] at h
  obtain ⟨⟨⟨⟨_, hblank⟩, _⟩, hstart⟩, _⟩ := h
  obtain ⟨c, cs, rfl⟩ := List.exists_cons_of_ne_nil hne
  have hc : c ≠ ' ' := by simpa using hblank
  have hcomment : c ≠ '#' := by
    rintro rfl
    exact absurd hstart (by simp [startsOtherwise])
  obtain ⟨q, hq, hread⟩ := readPlain_pieces hpieces hcs hrest
    ((c :: cs ++ '\n' :: rest).length + 1) [] {} p (by rw [List.length_append]; omega) hp hne
    (fun d hd => by
      cases hd
      by_contra hgap
      exact hc (hspace c List.mem_cons_self (by simpa using hgap)))
    (by simpa using hcomment)
  exact ⟨q, hq, hread⟩

def isKeyChar (c : Char) : Bool := c.isLower || c == '_'

theorem toNat_of_isKeyChar {c : Char} (h : isKeyChar c = true) : 95 ≤ c.toNat ∧ c.toNat ≤ 122 := by
  simp only [isKeyChar, Bool.or_eq_true, beq_iff_eq] at h
  rcases h with h | rfl
  · simp only [Char.isLower, Bool.and_eq_true, decide_eq_true_eq, UInt32.le_iff_toNat_le] at h
    change 97 ≤ c.toNat ∧ c.toNat ≤ 122 at h
    omega
  · decide

theorem isGap_of_isKeyChar {c : Char} (h : isKeyChar c = true) : isGap c = false := by
  have hrange := toNat_of_isKeyChar h
  have hne : ∀ d : Char, d.toNat < 95 → c ≠ d := by
    rintro d hd rfl
    omega
  simp only [isGap, isBlank, isBreak, Bool.or_eq_false_iff, beq_eq_false_iff_ne]
  refine ⟨⟨hne _ (by decide), hne _ (by decide)⟩, ?_⟩
  exact ⟨⟨⟨⟨hne _ (by decide), hne _ (by decide)⟩, by omega⟩, by omega⟩, by omega⟩

theorem PlainScalar.read_key {key rest : List Char} (hne : key ≠ [])
    (hkey : ∀ c ∈ key, isKeyChar c = true) (hrest : atGap rest = true) (indent : Nat)
    (p : Position) :
    PlainScalar.read false indent ⟨p, key ++ ':' :: rest⟩ =
      .ok ⟨key, ⟨p.along key.length, ':' :: rest⟩, false⟩ := by
  obtain ⟨c, key, rfl⟩ := List.exists_cons_of_ne_nil hne
  have hnot : ∀ d : Char, isKeyChar d = false → ∀ e ∈ c :: key, e ≠ d := by
    rintro d hd e he rfl
    rw [hkey e he] at hd
    cases hd
  have hmark : (p.column == 0 && atDocumentMark (c :: key ++ ':' :: rest)) = false := by
    have hdash := hnot '-' (by decide) c List.mem_cons_self
    have hdot := hnot '.' (by decide) c List.mem_cons_self
    rw [List.cons_append, atDocumentMark]
    · exact Bool.and_false _
    · exact fun _ h => hdash (List.cons.inj h).1
    · exact fun _ h => hdot (List.cons.inj h).1
  rw [PlainScalar.read, readPlain_word _ [] {} p hmark hne
    (fun d hd => isGap_of_isKeyChar (hkey d hd))
    (fun hhash => hnot '#' (by decide) _ (List.mem_of_mem_head? hhash) rfl)
    (fun hcolon => hnot ':' (by decide) _ (List.mem_of_getLast? hcolon) rfl)
    (.inr ⟨rest, rfl, hrest⟩)]
  simp [atGap_cons, show isGap ':' = false by decide]
  rfl

end ServerLogin.Yaml
