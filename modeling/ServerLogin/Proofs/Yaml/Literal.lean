import ServerLogin.Proofs.Text.Run
import ServerLogin.Proofs.Yaml.Gap

/-!
Literal blocks are read back.  Every line of the text is indented by two columns,
empty lines are not, and the header says what becomes of the line breaks at the
end.
-/

namespace ServerLogin.Yaml

theorem literalBody_word {w : List Char} (hw : ∀ c ∈ w, isBreak c = false) (rest : List Char) :
    literalBody false (w ++ rest) = w ++ literalBody false rest := by
  induction w with
  | nil => rfl
  | cons c w ih =>
    obtain ⟨hc, hw⟩ := List.forall_mem_cons.mp hw
    rw [List.cons_append, literalBody, hc, ih hw]
    rfl

theorem literalBody_breaks {bs : List Char} (hbs : ∀ b ∈ bs, isBreak b = true) (rest : List Char) :
    literalBody true (bs ++ rest) = bs ++ literalBody true rest := by
  induction bs with
  | nil => rfl
  | cons b bs ih =>
    obtain ⟨hb, hbs⟩ := List.forall_mem_cons.mp hbs
    rw [List.cons_append, literalBody, if_pos hb, ih hbs, List.cons_append]

theorem literalBody_afterWord {b : Char} (hb : isBreak b = true) (rest : List Char) :
    literalBody false (b :: rest) = b :: literalBody true rest := by
  rw [literalBody, if_pos hb]

theorem length_le_literalBody (afterBreak : Bool) (cs : List Char) :
    cs.length ≤ (literalBody afterBreak cs).length := by
  induction cs generalizing afterBreak with
  | nil => exact Nat.zero_le _
  | cons c cs ih =>
    rw [literalBody]
    split
    · exact Nat.succ_le_succ (ih true)
    · have hrest := ih false
      simp only [List.length_append, List.length_cons]
      omega

/-- Behind a line break the next line is indented. -/
theorem literalBody_true {cs : List Char} (hne : cs ≠ []) (h : StartsWord isBreak cs) :
    literalBody true cs = ' ' :: ' ' :: literalBody false cs := by
  obtain ⟨c, cs, rfl⟩ := List.exists_cons_of_ne_nil hne
  rw [literalBody, literalBody, h c rfl]
  rfl

/-- Whether a column still belongs to the indentation. -/
def inMargin (indent : Option Nat) (column : Nat) : Bool :=
  match indent with
  | none => true
  | some n => column < n

theorem readMargin_cons (indent : Option Nat) (acc : List Char) (widest : Nat) (p : Position)
    {c : Char} (hc : c ≠ '\r') (rest : List Char) :
    readMargin indent acc widest p (c :: rest) =
      if c == ' ' && inMargin indent p.column then readMargin indent acc widest p.next rest
      else if c == '\t' && inMargin indent p.column then .error .malformedToken
      else if isBreak c then
        readMargin indent (normalBreak c :: acc) (max widest p.column) (p.nextLine 1) rest
      else .ok ⟨acc, max widest p.column, ⟨p, c :: rest⟩⟩ := by
  cases indent with
  | none =>
    rw [readMargin]
    · rfl
    · rintro _ rfl
      exact absurd rfl hc
  | some n =>
    rw [readMargin]
    · rfl
    · rintro _ rfl
      exact absurd rfl hc

/-- Empty lines before a line of text are kept. -/
theorem readMargin_breaks (indent : Option Nat) (acc : List Char) (widest : Nat) {p : Position}
    (hp : p.column = 0) {bs : List Char} (hbs : ∀ b ∈ bs, isShowable b = true ∧ isBreak b = true)
    (rest : List Char) :
    ∃ q : Position, q.column = 0 ∧ readMargin indent acc widest p (bs ++ rest) =
      readMargin indent (bs.reverse ++ acc) widest q rest := by
  induction bs generalizing acc p with
  | nil => exact ⟨p, hp, rfl⟩
  | cons b bs ih =>
    obtain ⟨⟨hshow, hbreak⟩, hbs⟩ := List.forall_mem_cons.mp hbs
    obtain ⟨hnormal, hcarriage⟩ := normalBreak_of_showable hshow hbreak
    have hne : ∀ c : Char, isBreak c = false → (b == c) = false := by
      intro c hc
      rw [beq_eq_false_iff_ne]
      rintro rfl
      rw [hbreak] at hc
      cases hc
    obtain ⟨q, hq, hread⟩ := ih (b :: acc) (p := p.nextLine 1) rfl hbs
    refine ⟨q, hq, ?_⟩
    rw [List.cons_append, readMargin_cons _ _ _ _ hcarriage, hne ' ' (by decide),
      hne '\t' (by decide), if_pos hbreak, hnormal, hp, Nat.max_zero]
    simpa using hread

/-- A margin ends at the start of the next field or of the text. -/
theorem readMargin_end (indent : Option Nat) (acc : List Char) (widest : Nat) (p : Position)
    {rest : List Char} (h : StartsWord isGap rest) :
    readMargin indent acc widest p rest = .ok ⟨acc, max widest p.column, ⟨p, rest⟩⟩ := by
  cases rest with
  | nil => rfl
  | cons c rest =>
    obtain ⟨hblank, hbreak⟩ := isGap_eq_false_iff.mp (h c rfl)
    simp only [isBlank, Bool.or_eq_false_iff] at hblank
    have hcarriage : c ≠ '\r' := by
      rintro rfl
      exact absurd hbreak (by decide)
    rw [readMargin_cons _ _ _ _ hcarriage, hblank.1, hblank.2, hbreak]
    rfl

/-- The indentation of a line belongs to the margin, and no more than that when its
width is known. -/
theorem readMargin_line {indent : Option Nat} (acc : List Char) {p : Position} (hp : p.column = 0)
    {c : Char} (hshow : isShowable c = true) (hbreak : isBreak c = false)
    (hindent : indent = some 2 ∨ (indent = none ∧ c ≠ ' ')) (rest : List Char) :
    readMargin indent acc 0 p (' ' :: ' ' :: c :: rest) =
      .ok ⟨acc, 2, ⟨p.along 2, c :: rest⟩⟩ := by
  have htab : (c == '\t') = false := by
    rw [beq_eq_false_iff_ne]
    rintro rfl
    exact absurd hshow (by decide)
  have hcarriage : c ≠ '\r' := by
    rintro rfl
    exact absurd hbreak (by decide)
  have hcolumn : (p.along 2).column = 2 := by rw [Position.column_along, hp]
  have hmargin : ∀ n < 2, inMargin indent (p.along n).column = true := by
    intro n hn
    rcases hindent with rfl | ⟨rfl, _⟩
    · rw [Position.column_along, hp, Nat.zero_add]
      exact decide_eq_true hn
    · rfl
  have hstop : (c == ' ' && inMargin indent 2) = false := by
    rcases hindent with rfl | ⟨rfl, hc⟩
    · exact Bool.and_false _
    · rw [beq_eq_false_iff_ne.mpr hc, Bool.false_and]
  have hfirst : (' ' == ' ' && inMargin indent p.column) = true := hmargin 0 (by decide)
  have hsecond : (' ' == ' ' && inMargin indent (p.along 1).column) = true := hmargin 1 (by decide)
  rw [readMargin_cons _ _ _ _ (by decide), if_pos hfirst,
    readMargin_cons _ _ _ _ (by decide), Position.next, if_pos hsecond,
    readMargin_cons _ _ _ _ hcarriage, Position.next, Position.along_along, hcolumn,
    hstop, htab, hbreak]
  rfl

/-- Before a line of a written text stands its indentation. -/
theorem readMargin_body {indent : Option Nat} (acc : List Char) {p : Position} (hp : p.column = 0)
    {cs : List Char} (hne : cs ≠ []) (hshow : ∀ c ∈ cs, isShowable c = true)
    (hstart : StartsWord isBreak cs)
    (hindent : indent = some 2 ∨ (indent = none ∧ cs.head? ≠ some ' ')) (tail : List Char) :
    readMargin indent acc 0 p (literalBody true cs ++ tail) =
      .ok ⟨acc, 2, ⟨p.along 2, literalBody false cs ++ tail⟩⟩ := by
  obtain ⟨c, cs, rfl⟩ := List.exists_cons_of_ne_nil hne
  have hc : isBreak c = false := hstart c rfl
  have hbody : literalBody false (c :: cs) = c :: literalBody false cs := by
    rw [literalBody, hc]
    rfl
  rw [literalBody_true hne hstart, hbody]
  exact readMargin_line acc hp (hshow c List.mem_cons_self) hc (by simpa using hindent) _

/-- What is read of a block once a line is added, with the empty lines behind it. -/
def BlockText.withLine (t : BlockText) (w : List Char) (b : Char) (emptyLines : List Char) :
    BlockText where
  text := w.reverse ++ (t.emptyLines ++ (t.lineBreak ++ t.text))
  lineBreak := [b]
  emptyLines := emptyLines
  blankStart := w.head?.any isBlank

/-- One line of a literal block is read, with the empty lines behind it. -/
theorem readLines_line {w rest : List Char} {b : Char} (steps : Nat) (t : BlockText) {p : Position}
    (hp : p.column = 2) (hw : ∀ c ∈ w, isBreak c = false) (hshow : isShowable b = true)
    (hbreak : isBreak b = true) :
    readLines false 2 (steps + 1) t ⟨p, w ++ b :: rest⟩ =
      (readMargin (some 2) [] 0 ((p.along w.length).nextLine 1) rest).bind fun margin =>
        readLines false 2 steps (t.withLine w b margin.breaks) margin.next := by
  obtain ⟨hnormal, hcarriage⟩ := normalBreak_of_showable hshow hbreak
  have hline : (w ++ b :: rest).takeWhile (!isBreak ·) = w :=
    Text.takeWhile_run (fun c hc => by rw [hw c hc, Bool.not_false]) (by rw [hbreak, Bool.not_true])
      rest
  have hdrop : (w ++ b :: rest).drop w.length = b :: rest := List.drop_left
  have hskip : Cursor.skipBreak ⟨p.along w.length, b :: rest⟩ =
      ⟨(p.along w.length).nextLine 1, rest⟩ := by
    unfold Cursor.skipBreak
    split
    · next heq =>
      cases heq
      exact absurd rfl hcarriage
    · next heq =>
      cases heq
      exact if_pos hbreak
    · next heq => cases heq
  have hcontinue : (p.column != 2 || (w ++ b :: rest).isEmpty) = false := by simp [hp]
  rw [readLines]
  simp only [hcontinue, Bool.false_eq_true, if_false, hline, Cursor.along, hdrop, hskip, hnormal,
    bind, BlockText.addLine, BlockText.withLine, Bool.false_and]

/-- A line of a literal block is read, with the line breaks behind it. -/
theorem readLines_gap {w bs : List Char} {b : Char} (steps : Nat) (t : BlockText) {p : Position}
    (hp : p.column = 2) (hw : ∀ c ∈ w, isBreak c = false)
    (hgap : ∀ c ∈ b :: bs, isShowable c = true ∧ isBreak c = true) (body tail : List Char) :
    ∃ q : Position, q.column = 0 ∧
      readLines false 2 (steps + 1) t ⟨p, literalBody false (w ++ (b :: bs ++ body)) ++ tail⟩ =
        (readMargin (some 2) bs.reverse 0 q (literalBody true body ++ tail)).bind fun margin =>
          readLines false 2 steps (t.withLine w b margin.breaks) margin.next := by
  obtain ⟨⟨hshow, hbreak⟩, hbs⟩ := List.forall_mem_cons.mp hgap
  have hcolumn : ((p.along w.length).nextLine 1).column = 0 := rfl
  obtain ⟨q, hq, hbreaks⟩ :=
    readMargin_breaks (some 2) [] 0 hcolumn hbs (literalBody true body ++ tail)
  have hbody : literalBody false (w ++ (b :: bs ++ body)) =
      w ++ b :: (bs ++ literalBody true body) := by
    rw [literalBody_word hw, List.cons_append, literalBody_afterWord hbreak,
      literalBody_breaks (fun c hc => (hbs c hc).2)]
  refine ⟨q, hq, ?_⟩
  rw [hbody, List.append_assoc, List.cons_append, List.append_assoc,
    readLines_line steps t hp hw hshow hbreak, hbreaks, List.append_nil]

/-- A block ends before a line that is not indented. -/
theorem readLines_end (steps : Nat) (t : BlockText) {p : Position} (hp : p.column = 0)
    (rest : List Char) : readLines false 2 steps t ⟨p, rest⟩ = .ok (t, ⟨p, rest⟩) := by
  cases steps with
  | zero => rfl
  | succ steps =>
    rw [readLines, if_pos]
    simp [hp]

/-- What a literal block ends in: a line break, the text's own if it has one. -/
def ending (cs : List Char) : List Char := if cs.getLast?.any isBreak then [] else ['\n']

theorem exists_getLast? {cs : List Char} (hne : cs ≠ []) : ∃ c ∈ cs, cs.getLast? = some c := by
  obtain ⟨c, hc⟩ := Option.isSome_iff_exists.mp (List.getLast?_isSome.mpr hne)
  exact ⟨c, List.mem_of_getLast? hc, hc⟩

theorem ending_append {front back : List Char} (hne : back ≠ []) :
    ending (front ++ back) = ending back := by
  obtain ⟨c, _, hc⟩ := exists_getLast? hne
  rw [ending, ending, List.getLast?_append, hc]
  rfl

theorem ending_of_word {w : List Char} (hne : w ≠ []) (hw : ∀ c ∈ w, isBreak c = false) :
    ending w = ['\n'] := by
  obtain ⟨c, hmem, hc⟩ := exists_getLast? hne
  rw [ending, hc, Option.any_some, hw c hmem]
  rfl

theorem ending_of_breaks {bs : List Char} (hne : bs ≠ []) (hbs : ∀ c ∈ bs, isBreak c = true) :
    ending bs = [] := by
  obtain ⟨c, hmem, hc⟩ := exists_getLast? hne
  rw [ending, hc, Option.any_some, hbs c hmem]
  rfl

/-- What was read of a block whose text ends in `front`, a line break and the breaks
of empty lines behind it. -/
structure Ends (cs : List Char) (t t' : BlockText) (front : List Char) (b : Char)
    (bs : List Char) : Prop where
  split : cs ++ ending cs = front ++ b :: bs
  isBreak : ∀ c ∈ b :: bs, isBreak c = true
  last : ∃ c, front.getLast? = some c ∧ Yaml.isBreak c = false
  text : t'.text = front.reverse ++ (t.emptyLines ++ (t.lineBreak ++ t.text))
  lineBreak : t'.lineBreak = [b]
  emptyLines : t'.emptyLines = bs.reverse

/-- A block of one line ends with it. -/
theorem Ends.withLine {w bs cs : List Char} {b : Char} (t : BlockText) (hne : w ≠ [])
    (hw : ∀ c ∈ w, Yaml.isBreak c = false) (hbs : ∀ c ∈ b :: bs, Yaml.isBreak c = true)
    (hsplit : cs ++ ending cs = w ++ b :: bs) :
    Ends cs t (t.withLine w b bs.reverse) w b bs := by
  obtain ⟨c, hmem, hc⟩ := exists_getLast? hne
  exact ⟨hsplit, hbs, ⟨c, hc, hw c hmem⟩, rfl, rfl, rfl⟩

/-- A block with a line in front ends as it does without it. -/
theorem Ends.behind {w bs cs front bs' : List Char} {b b' : Char} {t t' : BlockText}
    (hne : cs ≠ []) (h : Ends cs (t.withLine w b bs.reverse) t' front b' bs') :
    Ends (w ++ (b :: bs ++ cs)) t t' (w ++ b :: bs ++ front) b' bs' := by
  have hending : ending (w ++ (b :: bs ++ cs)) = ending cs := by
    rw [ending_append (by simp), ending_append hne]
  refine ⟨?_, h.isBreak, ?_, ?_, h.lineBreak, h.emptyLines⟩
  · rw [hending, List.append_assoc, List.append_assoc, h.split]
    simp
  · obtain ⟨c, hc, hbreak⟩ := h.last
    exact ⟨c, by rw [List.getLast?_append, hc]; rfl, hbreak⟩
  · rw [h.text]
    simp [BlockText.withLine]

/-- A block of one line is read, with the line break that ends it. -/
theorem readLines_word {w rest : List Char} (steps : Nat) (t : BlockText) {p : Position}
    (hp : p.column = 2) (hne : w ≠ []) (hw : ∀ c ∈ w, isBreak c = false)
    (hrest : StartsWord isGap rest) :
    readLines false 2 (steps + 1) t ⟨p, literalBody false w ++ (ending w ++ rest)⟩ =
      .ok (t.withLine w '\n' [], ⟨(p.along w.length).nextLine 1, rest⟩) := by
  have hbody : literalBody false w = w := by
    have h := literalBody_word hw []
    simpa [literalBody] using h
  rw [hbody, ending_of_word hne hw, List.singleton_append,
    readLines_line steps t hp hw (by decide) (by decide), readMargin_end _ _ _ _ hrest]
  exact readLines_end steps _ rfl rest

/-- The lines of a literal block are read up to the next field. -/
theorem readLines_pieces {cs rest : List Char} (hpieces : Pieces isBreak cs)
    (hshow : ∀ c ∈ cs, isShowable c = true) (hrest : StartsWord isGap rest) :
    ∀ (steps : Nat) (t : BlockText) (p : Position), cs.length < steps → p.column = 2 → cs ≠ [] →
      StartsWord isBreak cs →
      ∃ (q : Position) (t' : BlockText) (front : List Char) (b : Char) (bs : List Char),
        q.column = 0 ∧ Ends cs t t' front b bs ∧
        readLines false 2 steps t ⟨p, literalBody false cs ++ (ending cs ++ rest)⟩ =
          .ok (t', ⟨q, rest⟩) := by
  induction hpieces with
  | @word w hw =>
    intro steps t p hsteps hp hne hstart
    obtain ⟨steps, rfl⟩ : ∃ n, steps = n + 1 := ⟨steps - 1, by omega⟩
    have hfeed : ∀ c ∈ ['\n'], isBreak c = true := List.all_eq_true.mp (by decide)
    have hsplit : w ++ ending w = w ++ '\n' :: [] := by rw [ending_of_word hne hw]
    exact ⟨_, _, w, '\n', [], rfl, Ends.withLine t hne hw hfeed hsplit,
      readLines_word steps t hp hne hw hrest⟩
  | @more w gap rest' hw hrun hsep hstart' hpieces ih =>
    intro steps t p hsteps hp hne hstart
    obtain ⟨steps, rfl⟩ : ∃ n, steps = n + 1 := ⟨steps - 1, by omega⟩
    have hgap : ∀ c ∈ gap, isShowable c = true ∧ isBreak c = true := fun c hc =>
      ⟨hshow c (by simp [hc]), hsep c hc⟩
    obtain ⟨b, bs, rfl⟩ := hrun.exists_cons
    have hwne : w ≠ [] := by
      rintro rfl
      have hb := hsep b List.mem_cons_self
      rw [hstart b rfl] at hb
      cases hb
    obtain ⟨q, hq, hline⟩ := readLines_gap steps t hp hw hgap rest'
      (ending (w ++ (b :: bs ++ rest')) ++ rest)
    rw [hline]
    by_cases hnil : rest' = []
    · -- The text ends in these breaks.
      subst hnil
      have hending : ending (w ++ (b :: bs ++ [])) = [] := by
        rw [List.append_nil, ending_append (List.cons_ne_nil b bs),
          ending_of_breaks (List.cons_ne_nil b bs) hsep]
      refine ⟨q, t.withLine w b bs.reverse, w, b, bs, hq,
        Ends.withLine t hwne hw hsep (by rw [hending]; simp), ?_⟩
      rw [hending, literalBody, List.nil_append, List.nil_append, readMargin_end _ _ _ _ hrest]
      exact readLines_end steps _ hq rest
    · have hending : ending (w ++ (b :: bs ++ rest')) = ending rest' := by
        rw [ending_append (by simp), ending_append hnil]
      have hshow' : ∀ d ∈ rest', isShowable d = true := fun d hd =>
        hshow d (List.mem_append_right w (List.mem_append_right (b :: bs) hd))
      have hlength : rest'.length < steps := by
        simp only [List.length_append, List.length_cons] at hsteps
        omega
      obtain ⟨q', t', front, b', bs', hq', hends, hread⟩ := ih hshow' steps
        (t.withLine w b bs.reverse) (q.along 2) hlength (by rw [Position.column_along, hq]) hnil
        hstart'
      rw [hending, readMargin_body bs.reverse hq hnil hshow' hstart' (.inl rfl)]
      exact ⟨q', t', w ++ b :: bs ++ front, b', bs', hq', hends.behind hnil, hread⟩

/-- What becomes of the breaks at the end of a text that is written as a block. -/
def chompingOf (cs : List Char) : Chomping :=
  match cs.reverse with
  | [] => .strip
  | [last] => if isBreak last then .keep else .strip
  | last :: before :: _ =>
    if !isBreak last then .strip else if isBreak before then .keep else .clip

/-- The indicator of the indentation, if it is needed. -/
def incrementOf (cs : List Char) : Option Nat :=
  if cs.head?.any fun c => c == ' ' || isBreak c then some 2 else none

theorem readHeader_literalHints (cs : List Char) (p : Position) (rest : List Char) :
    ∃ q : Position, q.column = 0 ∧ readHeader ⟨p, literalHints cs ++ '\n' :: rest⟩ =
      .ok (⟨chompingOf cs, incrementOf cs⟩, ⟨q, rest⟩) := by
  have hmark : ∃ mark, literalHints cs = (if (incrementOf cs).isSome then ['2'] else []) ++ mark ∧
      ((mark = ['-'] ∧ chompingOf cs = .strip) ∨ (mark = ['+'] ∧ chompingOf cs = .keep) ∨
        (mark = [] ∧ chompingOf cs = .clip)) := by
    have hindent : (incrementOf cs).isSome = cs.head?.any fun c => c == ' ' || isBreak c := by
      unfold incrementOf
      split
      · next h => exact h.symm
      · next h => simpa using h
    rw [hindent]
    unfold literalHints chompingOf
    refine ⟨_, rfl, ?_⟩
    cases cs.reverse with
    | nil => exact .inl ⟨rfl, rfl⟩
    | cons last before =>
      cases before with
      | nil => by_cases hlast : isBreak last = true <;> simp [hlast]
      | cons before more =>
        by_cases hlast : isBreak last = true
        · by_cases hbefore : isBreak before = true <;> simp [hlast, hbefore]
        · simp [hlast]
  obtain ⟨mark, hhints, hmark⟩ := hmark
  rw [hhints]
  have hincrement : incrementOf cs = some 2 ∨ incrementOf cs = none := by
    unfold incrementOf
    split <;> simp
  rcases hmark with ⟨rfl, hchomping⟩ | ⟨rfl, hchomping⟩ | ⟨rfl, hchomping⟩
  all_goals
    rw [hchomping]
    rcases hincrement with hincrement | hincrement
    all_goals
      rw [hincrement]
      exact ⟨_, rfl, rfl⟩

/-- Dropping the breaks that the header does not keep gives the text. -/
theorem chomp_eq {cs front bs : List Char} {b : Char} (hsplit : cs ++ ending cs = front ++ b :: bs)
    (hbreaks : ∀ c ∈ b :: bs, isBreak c = true)
    (hlast : ∃ c, front.getLast? = some c ∧ isBreak c = false) :
    (chompingOf cs).tail [b] bs.reverse ++ front.reverse = cs.reverse := by
  obtain ⟨last, hlast, hnot⟩ := hlast
  obtain ⟨front, rfl⟩ := List.getLast?_eq_some_iff.mp hlast
  by_cases hend : cs.getLast?.any isBreak = true
  · rw [ending, if_pos hend, List.append_nil] at hsplit
    subst hsplit
    obtain ⟨hb, hbs⟩ := List.forall_mem_cons.mp hbreaks
    rcases List.eq_nil_or_concat' bs with rfl | ⟨bs, b', rfl⟩
    · simp [chompingOf, Chomping.tail, hb, hnot]
    · have hb' := hbs b' (by simp)
      rcases List.eq_nil_or_concat' bs with rfl | ⟨bs, b'', rfl⟩
      · simp [chompingOf, Chomping.tail, hb, hb']
      · have hb'' := hbs b'' (by simp)
        simp [chompingOf, Chomping.tail, hb', hb'']
  · rw [ending, if_neg hend] at hsplit
    have hbs : bs = [] := by
      rcases List.eq_nil_or_concat' bs with hnil | ⟨bs, b', rfl⟩
      · exact hnil
      · have hb : ∀ c ∈ b :: bs, isBreak c = true := fun c hc =>
          hbreaks c (List.mem_cons.mpr ((List.mem_cons.mp hc).imp_right (List.mem_append_left _)))
        obtain ⟨d, hmem, hd⟩ := exists_getLast? (List.cons_ne_nil b bs)
        rw [← List.cons_append, ← List.append_assoc] at hsplit
        have hcs := (List.append_inj' hsplit rfl).1
        rw [hcs, List.getLast?_append, hd, Option.some_or, Option.any_some,
          hb d hmem] at hend
        exact absurd rfl hend
    subst hbs
    have hcs := (List.append_inj' hsplit rfl).1
    subst hcs
    have hstrip : chompingOf (front ++ [last]) = .strip := by
      rw [chompingOf, List.reverse_append]
      cases front.reverse <;> simp [hnot]
    rw [hstrip]
    rfl

theorem chompingOf_breaks {cs : List Char} (hne : cs ≠ []) (hcs : ∀ c ∈ cs, isBreak c = true) :
    chompingOf cs = .keep := by
  have hrev : ∀ c ∈ cs.reverse, isBreak c = true := fun c hc => hcs c (List.mem_reverse.mp hc)
  have hne' : cs.reverse ≠ [] := List.reverse_ne_nil_iff.mpr hne
  rw [chompingOf]
  cases hcase : cs.reverse with
  | nil => exact absurd hcase hne'
  | cons last before =>
    rw [hcase, List.forall_mem_cons] at hrev
    cases before with
    | nil => simp [hrev.1]
    | cons before more => simp [hrev.1, hrev.2 before List.mem_cons_self]

theorem exists_breaks_append (cs : List Char) :
    ∃ bs body, cs = bs ++ body ∧ (∀ b ∈ bs, isBreak b = true) ∧ StartsWord isBreak body := by
  induction cs with
  | nil => exact ⟨[], [], rfl, by simp, nofun⟩
  | cons c cs ih =>
    by_cases hc : isBreak c = true
    · obtain ⟨bs, body, rfl, hbs, hbody⟩ := ih
      exact ⟨c :: bs, body, rfl, List.forall_mem_cons.mpr ⟨hc, hbs⟩, hbody⟩
    · refine ⟨[], c :: cs, rfl, by simp, fun d hd => ?_⟩
      cases hd
      simpa using hc

/-- The parts of a block scalar in a mapping at the top level. -/
theorem readBlockScalar_eq {c c₁ c₂ : Cursor} {header : BlockHeader} {margin : Margin}
    {t : BlockText} (hheader : readHeader (c.along 1) = .ok (header, c₁))
    (hmargin : readMargin header.increment [] 0 c₁.position c₁.rest = .ok margin)
    (hindent : header.increment.getD (max margin.widest 1) = 2)
    (hlines : readLines false 2 (margin.next.rest.length + 1) { emptyLines := margin.breaks }
      margin.next = .ok (t, c₂)) :
    readBlockScalar false (some 0) c =
      .ok ((header.chomping.tail t.lineBreak t.emptyLines ++ t.text).reverse, c₂) := by
  unfold readBlockScalar
  simp only [hheader, bind, Except.bind, Option.getD_some, Nat.zero_add, Option.map_id', hmargin,
    Nat.max_self, hindent, hlines]

/-- A text of line breaks is read back. -/
theorem readBlockScalar_breaks {bs rest : List Char} (hne : bs ≠ [])
    (hbs : ∀ b ∈ bs, isShowable b = true ∧ isBreak b = true) (hrest : StartsWord isGap rest)
    (p : Position) :
    ∃ q : Position, q.column = 0 ∧ readBlockScalar false (some 0) ⟨p, '|' :: (literalHints bs ++
        '\n' :: (literalBody true bs ++ (ending bs ++ rest)))⟩ = .ok (bs, ⟨q, rest⟩) := by
  have hbreaks : ∀ b ∈ bs, isBreak b = true := fun b hb => (hbs b hb).2
  obtain ⟨q₀, hq₀, hheader⟩ := readHeader_literalHints bs (p.along 1)
    (literalBody true bs ++ (ending bs ++ rest))
  have hbody : literalBody true bs ++ (ending bs ++ rest) = bs ++ rest := by
    have hwritten := literalBody_breaks hbreaks []
    rw [List.append_nil, literalBody, List.append_nil] at hwritten
    rw [hwritten, ending_of_breaks hne hbreaks, List.nil_append]
  obtain ⟨q, hq, hmargin⟩ := readMargin_breaks (incrementOf bs) [] 0 hq₀ hbs rest
  rw [← hbody, List.append_nil, readMargin_end _ _ _ _ hrest] at hmargin
  have hindent : incrementOf bs = some 2 := by
    obtain ⟨b, bs, rfl⟩ := List.exists_cons_of_ne_nil hne
    rw [incrementOf, List.head?_cons, Option.any_some, hbreaks b List.mem_cons_self, Bool.or_true,
      if_pos rfl]
  have hread := readBlockScalar_eq (c := ⟨p, '|' :: (literalHints bs ++
      '\n' :: (literalBody true bs ++ (ending bs ++ rest)))⟩) hheader hmargin
    (by rw [hindent]; rfl) (readLines_end _ _ hq rest)
  refine ⟨q, hq, hread.trans ?_⟩
  rw [chompingOf_breaks hne hbreaks]
  simp [Chomping.tail]

/-- The indentation is written when a line that begins with a space could hide it. -/
theorem incrementOf_cases {bs body : List Char} (hne : body ≠ [])
    (hbs : ∀ b ∈ bs, isBreak b = true) (hbody : StartsWord isBreak body) :
    incrementOf (bs ++ body) = some 2 ∨
      (incrementOf (bs ++ body) = none ∧ body.head? ≠ some ' ') := by
  rw [incrementOf]
  cases bs with
  | cons b bs => simp [hbs b List.mem_cons_self]
  | nil =>
    obtain ⟨c, body, rfl⟩ := List.exists_cons_of_ne_nil hne
    by_cases hc : c = ' '
    · exact .inl (by simp [hc])
    · exact .inr (by simp [hc, hbody c rfl])

/-- A text with a line that is not empty is read back. -/
theorem readBlockScalar_lines {bs body rest : List Char} (hne : body ≠ [])
    (hshow : ∀ c ∈ bs ++ body, isShowable c = true) (hbs : ∀ b ∈ bs, isBreak b = true)
    (hbody : StartsWord isBreak body) (hrest : StartsWord isGap rest) (p : Position) :
    ∃ q : Position, q.column = 0 ∧
      readBlockScalar false (some 0) ⟨p, '|' :: (literalHints (bs ++ body) ++
        '\n' :: (literalBody true (bs ++ body) ++ (ending (bs ++ body) ++ rest)))⟩ =
          .ok (bs ++ body, ⟨q, rest⟩) := by
  have hending : ending (bs ++ body) = ending body := ending_append hne
  have hindent := incrementOf_cases hne hbs hbody
  have hshow' : ∀ c ∈ body, isShowable c = true := fun c hc => hshow c (List.mem_append_right bs hc)
  obtain ⟨q₀, hq₀, hheader⟩ := readHeader_literalHints (bs ++ body) (p.along 1)
    (literalBody true (bs ++ body) ++ (ending (bs ++ body) ++ rest))
  obtain ⟨q₁, hq₁, hmargin⟩ := readMargin_breaks (incrementOf (bs ++ body)) [] 0 hq₀
    (fun b hb => ⟨hshow b (List.mem_append_left body hb), hbs b hb⟩)
    (literalBody true body ++ (ending (bs ++ body) ++ rest))
  rw [List.append_nil, ← List.append_assoc, ← literalBody_breaks hbs,
    readMargin_body bs.reverse hq₁ hne hshow' hbody hindent] at hmargin
  have hpieces : Pieces isBreak body := pieces_of_chain (fun c _ hc => .inr hc)
    (List.pairwise_of_forall_mem_list fun a _ b _ ha hb => .inr ⟨ha, hb⟩).isChain
  have hlength : body.length <
      (literalBody false body ++ (ending (bs ++ body) ++ rest)).length + 1 := by
    have hle := length_le_literalBody false body
    rw [List.length_append]
    omega
  obtain ⟨q, t, front, b, bs', hq, hends, hlines⟩ := readLines_pieces hpieces hshow' hrest
    ((literalBody false body ++ (ending (bs ++ body) ++ rest)).length + 1)
    { emptyLines := bs.reverse } (q₁.along 2) hlength (by rw [Position.column_along, hq₁]) hne
    hbody
  rw [← hending] at hlines
  have hwide : (incrementOf (bs ++ body)).getD (max 2 1) = 2 := by
    rcases hindent with hindent | ⟨hindent, _⟩ <;> rw [hindent] <;> rfl
  have hread := readBlockScalar_eq (c := ⟨p, '|' :: (literalHints (bs ++ body) ++
    '\n' :: (literalBody true (bs ++ body) ++ (ending (bs ++ body) ++ rest)))⟩)
    hheader hmargin hwide hlines
  refine ⟨q, hq, hread.trans ?_⟩
  have hsplit : (bs ++ body) ++ ending (bs ++ body) = (bs ++ front) ++ b :: bs' := by
    rw [hending, List.append_assoc, hends.split, List.append_assoc]
  have hlast : ∃ c, (bs ++ front).getLast? = some c ∧ isBreak c = false := by
    obtain ⟨c, hc, hcbreak⟩ := hends.last
    exact ⟨c, by rw [List.getLast?_append, hc]; rfl, hcbreak⟩
  have hchomp := chomp_eq hsplit hends.isBreak hlast
  have htext : t.text = (bs ++ front).reverse := by
    rw [hends.text]
    simp
  rw [htext, hends.lineBreak, hends.emptyLines, hchomp, List.reverse_reverse]

/-- A text that can be written as a literal block is read back. -/
theorem readBlockScalar_literal {cs rest : List Char} (h : fitsLiteral cs = true) (hne : cs ≠ [])
    (hrest : StartsWord isGap rest) (p : Position) :
    ∃ q : Position, q.column = 0 ∧ readBlockScalar false (some 0) ⟨p, '|' :: (literalHints cs ++
        '\n' :: (literalBody true cs ++ (ending cs ++ rest)))⟩ = .ok (cs, ⟨q, rest⟩) := by
  simp only [fitsLiteral, isLegible, Bool.and_eq_true, List.all_eq_true] at h
  have hshow := h.1.1
  obtain ⟨bs, body, rfl, hbs, hbody⟩ := exists_breaks_append cs
  by_cases hnil : body = []
  · rw [hnil, List.append_nil] at hne hshow ⊢
    exact readBlockScalar_breaks hne (fun b hb => ⟨hshow b hb, hbs b hb⟩) hrest p
  · exact readBlockScalar_lines hnil hshow hbs hbody hrest p

end ServerLogin.Yaml
