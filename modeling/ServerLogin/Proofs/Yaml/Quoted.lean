import ServerLogin.Proofs.Text.Hexadecimal
import ServerLogin.Proofs.Yaml.Gap

/-!
Quoted scalars are read back.  Between single quotes the quote itself is doubled
and a line break is followed by indentation; between double quotes whatever does
not show is escaped, and with it every line break.
-/

namespace ServerLogin.Yaml

open ServerLogin.Text

/-- The next word of a quoted scalar, with its end. -/
def nextWord (single : Bool) (p : Position) (cs : List Char) :
    Except YamlFault (List Char × WordEnd × Cursor) :=
  if single then .ok (readSingle [] p cs) else readDouble [] 0 p cs

/-- A word before the closing quote is the last one. -/
theorem readQuoted_quote {single : Bool} {steps : Nat} {text cs word : List Char} {p : Position}
    {c : Cursor} (hp : p.column ≠ 0) (hcs : cs ≠ [])
    (hword : nextWord single p cs = .ok (word, .quote, c)) :
    readQuoted single (steps + 1) text ⟨p, cs⟩ = .ok ((word ++ text).reverse, c) := by
  have hnot : ((p.column == 0 && atDocumentMark cs) || cs.isEmpty) = false := by
    rw [beq_eq_false_iff_ne.mpr hp, List.isEmpty_eq_false_iff.mpr hcs]
    rfl
  rw [readQuoted, if_neg (by simp [hnot])]
  cases single with
  | true =>
    rw [nextWord, if_pos rfl, Except.ok.injEq] at hword
    simp only [if_true, hword, bind, Except.bind]
  | false =>
    rw [nextWord, if_neg Bool.false_ne_true] at hword
    simp only [Bool.false_eq_true, if_false, hword, bind, Except.bind]

/-- A word before a gap is read, and the gap behind it. -/
theorem readQuoted_gap {single : Bool} {steps : Nat} {text cs word : List Char} {p : Position}
    {c c' : Cursor} {gap : Gap} (hp : p.column ≠ 0) (hcs : cs ≠ [])
    (hword : nextWord single p cs = .ok (word, .gap, c))
    (hgap : Gap.read 0 {} c.position c.rest = .ok (gap, c')) :
    readQuoted single (steps + 1) text ⟨p, cs⟩ =
      readQuoted single steps (gap.text.reverse ++ (word ++ text)) c' := by
  have hnot : ((p.column == 0 && atDocumentMark cs) || cs.isEmpty) = false := by
    rw [beq_eq_false_iff_ne.mpr hp, List.isEmpty_eq_false_iff.mpr hcs]
    rfl
  rw [readQuoted, if_neg (by simp [hnot])]
  cases single with
  | true =>
    rw [nextWord, if_pos rfl, Except.ok.injEq] at hword
    simp only [if_true, hword, bind, Except.bind, hgap]
  | false =>
    rw [nextWord, if_neg Bool.false_ne_true] at hword
    simp only [Bool.false_eq_true, if_false, hword, bind, Except.bind, hgap]

/-- The quote is written twice between single quotes. -/
def doubled (w : List Char) : List Char := w.flatMap fun c => if c == '\x27' then [c, c] else [c]

theorem doubled_cons (c : Char) (w : List Char) :
    doubled (c :: w) = (if c == '\x27' then [c, c] else [c]) ++ doubled w :=
  List.flatMap_cons

theorem singleBody_word {w : List Char} (hw : ∀ c ∈ w, isBreak c = false) (rest : List Char) :
    singleBody false (w ++ rest) = doubled w ++ singleBody false rest := by
  induction w with
  | nil => rfl
  | cons c w ih =>
    obtain ⟨hc, hw⟩ := List.forall_mem_cons.mp hw
    rw [List.cons_append, singleBody, hc, ih hw, doubled_cons, List.append_assoc]
    simp

theorem singleBody_blanks (n : Nat) (rest : List Char) :
    singleBody false (List.replicate n ' ' ++ rest) =
      List.replicate n ' ' ++ singleBody false rest := by
  have hdoubled : doubled (List.replicate n ' ') = List.replicate n ' ' := by
    simp [doubled, List.flatMap_replicate]
  have hspaces : ∀ c ∈ List.replicate n ' ', isBreak c = false := by
    intro c hc
    rw [List.eq_of_mem_replicate hc]
    decide
  rw [singleBody_word hspaces, hdoubled]

theorem singleBody_breaks {bs : List Char} (hbs : ∀ b ∈ bs, isBreak b = true) (hne : bs ≠ [])
    (afterBreak : Bool) (rest : List Char) :
    singleBody afterBreak (bs ++ rest) = bs ++ singleBody true rest := by
  induction bs generalizing afterBreak with
  | nil => exact absurd rfl hne
  | cons b bs ih =>
    obtain ⟨hb, hbs⟩ := List.forall_mem_cons.mp hbs
    rw [List.cons_append, singleBody, if_pos hb, List.cons_append]
    cases bs with
    | nil => rfl
    | cons b' bs => rw [ih hbs nofun]

theorem singleBody_true {rest : List Char} (h : StartsWord isGap rest) :
    singleBody true rest = margin ++ singleBody false rest := by
  cases rest with
  | nil => rfl
  | cons c rest =>
    have hbreak := (isGap_eq_false_iff.mp (h c rfl)).2
    rw [singleBody, singleBody, hbreak]
    simp

theorem length_le_singleBody (afterBreak : Bool) (cs : List Char) :
    cs.length ≤ (singleBody afterBreak cs).length := by
  induction cs generalizing afterBreak with
  | nil => exact Nat.zero_le _
  | cons c cs ih =>
    rw [singleBody]
    split
    · exact Nat.succ_le_succ (ih true)
    · have hrest := ih false
      have hchar : 1 ≤ (if c == '\x27' then [c, c] else [c]).length := by
        split
        · exact Nat.le_succ 1
        · exact Nat.le_refl 1
      simp only [List.length_append, List.length_cons]
      omega

theorem singleBody_startsWord {cs : List Char} (h : StartsWord isGap cs) (rest : List Char) :
    StartsWord isGap (singleBody false cs ++ '\x27' :: rest) := by
  cases cs with
  | nil =>
    intro c hc
    cases hc
    decide
  | cons c cs =>
    have hc := h c rfl
    have hbreak := (isGap_eq_false_iff.mp hc).2
    intro d hd
    rw [singleBody, hbreak] at hd
    by_cases hquote : c = '\x27'
    · subst hquote
      cases hd
      decide
    · simp only [Bool.false_eq_true, if_false, beq_eq_false_iff_ne.mpr hquote] at hd
      cases hd
      exact hc

theorem readSingle_doubled {w : List Char} (hw : ∀ c ∈ w, isGap c = false) (acc : List Char)
    (p : Position) (tail : List Char) :
    ∃ q : Position, p.column ≤ q.column ∧
      readSingle acc p (doubled w ++ tail) = readSingle (w.reverse ++ acc) q tail := by
  induction w generalizing acc p with
  | nil => exact ⟨p, Nat.le_refl _, rfl⟩
  | cons c w ih =>
    obtain ⟨hc, hrest⟩ := List.forall_mem_cons.mp hw
    obtain ⟨hblank, hbreak⟩ := isGap_eq_false_iff.mp hc
    have hrev : (c :: w).reverse ++ acc = w.reverse ++ c :: acc := by simp
    rw [hrev, doubled_cons, List.append_assoc]
    by_cases hquote : c = '\x27'
    · subst hquote
      obtain ⟨q, hq, hread⟩ := ih hrest ('\x27' :: acc) (p.along 2)
      exact ⟨q, by simp only [Position.column_along] at hq; omega, hread⟩
    · obtain ⟨q, hq, hread⟩ := ih hrest (c :: acc) p.next
      refine ⟨q, by simp only [Position.next, Position.column_along] at hq; omega, ?_⟩
      rw [if_neg (by simpa using hquote), List.singleton_append, readSingle, hblank, hbreak]
      · exact hread
      · rintro _ rfl
        exact absurd rfl hquote
      · rintro rfl
        exact absurd rfl hquote

theorem nextWord_single_quote {w : List Char} (hw : ∀ c ∈ w, isGap c = false) (p : Position)
    {rest : List Char} (hrest : rest.head? ≠ some '\x27') :
    ∃ q : Position,
      nextWord true p (doubled w ++ '\x27' :: rest) = .ok (w.reverse, .quote, ⟨q, rest⟩) := by
  obtain ⟨q, _, hread⟩ := readSingle_doubled hw [] p ('\x27' :: rest)
  refine ⟨q.next, ?_⟩
  rw [nextWord, if_pos rfl, hread, List.append_nil, readSingle]
  rintro _ rfl
  exact absurd rfl hrest

theorem nextWord_single_gap {w : List Char} (hw : ∀ c ∈ w, isGap c = false) (p : Position)
    {c : Char} (hc : isGap c = true) (tail : List Char) (htail : tail.head? = some c) :
    ∃ q : Position, p.column ≤ q.column ∧
      nextWord true p (doubled w ++ tail) = .ok (w.reverse, .gap, ⟨q, tail⟩) := by
  obtain ⟨rest, rfl⟩ := List.head?_eq_some_iff.mp htail
  obtain ⟨q, hq, hread⟩ := readSingle_doubled hw [] p (c :: rest)
  have hquote : c ≠ '\x27' := by
    rintro rfl
    exact absurd hc (by decide)
  have hgap : (isBlank c || isBreak c) = true := hc
  refine ⟨q, hq, ?_⟩
  rw [nextWord, if_pos rfl, hread, List.append_nil, readSingle, if_pos hgap]
  · rintro _ rfl
    exact absurd rfl hquote
  · rintro rfl
    exact absurd rfl hquote

/-- What is left of a text that can be written between single quotes. -/
structure SingleRest (cs : List Char) : Prop where
  showable : ∀ c ∈ cs, isShowable c = true
  noFeed : '\n' ∉ cs

theorem SingleRest.of_append {front back : List Char} (h : SingleRest (front ++ back)) :
    SingleRest back :=
  ⟨fun c hc => h.showable c (List.mem_append_right front hc),
    fun hfeed => h.noFeed (List.mem_append_right front hfeed)⟩

/-- A scalar between single quotes is read up to the closing quote. -/
theorem readQuoted_single {cs rest : List Char} (hpieces : Pieces isGap cs) (hcs : SingleRest cs)
    (hrest : rest.head? ≠ some '\x27') :
    ∀ (steps : Nat) (text : List Char) (p : Position), cs.length < steps → p.column ≠ 0 →
      ∃ q : Position, readQuoted true steps text ⟨p, singleBody false cs ++ '\x27' :: rest⟩ =
        .ok (text.reverse ++ cs, ⟨q, rest⟩) := by
  induction hpieces with
  | @word w hw =>
    intro steps text p hsteps hp
    obtain ⟨steps, rfl⟩ : ∃ n, steps = n + 1 := ⟨steps - 1, by omega⟩
    obtain ⟨q, hword⟩ := nextWord_single_quote hw p hrest
    have hbody : singleBody false w = doubled w := by
      have h := singleBody_word (fun c hc => (isGap_eq_false_iff.mp (hw c hc)).2) []
      simpa [singleBody] using h
    refine ⟨q, ?_⟩
    rw [hbody, readQuoted_quote hp (by simp) hword, List.reverse_append, List.reverse_reverse]
  | @more w gap rest' hw hrun hsep hstart hpieces ih =>
    intro steps text p hsteps hp
    obtain ⟨steps, rfl⟩ : ∃ n, steps = n + 1 := ⟨steps - 1, by omega⟩
    have hbreak := fun c hc => (isGap_eq_false_iff.mp (hw c hc)).2
    have hbegin := singleBody_startsWord hstart rest
    have hlength : 0 < gap.length → rest'.length < steps := by
      simp only [List.length_append] at hsteps
      omega
    cases hrun with
    | blanks n =>
      obtain ⟨q, hq, hword⟩ := nextWord_single_gap hw p (show isGap ' ' = true by decide)
        (List.replicate (n + 1) ' ' ++ (singleBody false rest' ++ '\x27' :: rest)) rfl
      obtain ⟨q', hread⟩ := ih hcs.of_append.of_append steps
        ((List.replicate (n + 1) ' ').reverse ++ (w.reverse ++ text)) (q.along (n + 1))
        (hlength (by simp)) (by rw [Position.column_along]; omega)
      refine ⟨q', ?_⟩
      rw [singleBody_word hbreak, singleBody_blanks, List.append_assoc, List.append_assoc,
        readQuoted_gap hp (by simp) hword (Gap.read_run_blanks 0 (n + 1) q hbegin),
        Gap.text_blanks, hread]
      simp
    | breaks hne hbs =>
      have hshow : ∀ b ∈ gap, isShowable b = true ∧ isBreak b = true := fun b hb =>
        ⟨hcs.showable b (by simp [hb]), hbs b hb⟩
      have hfeed : '\n' ∉ gap := fun hfeed => hcs.noFeed (by simp [hfeed])
      have hbody : singleBody false (gap ++ rest') = gap ++ (margin ++ singleBody false rest') := by
        rw [singleBody_breaks hbs hne, singleBody_true hstart]
      obtain ⟨b, bs, rfl⟩ := List.exists_cons_of_ne_nil hne
      obtain ⟨q, _, hword⟩ := nextWord_single_gap hw p (hsep b List.mem_cons_self)
        (b :: bs ++ (margin ++ (singleBody false rest' ++ '\x27' :: rest))) rfl
      obtain ⟨q', hq', hgap⟩ := Gap.read_run_breaks 0 2 q hne hshow hbegin
      obtain ⟨q'', hread⟩ := ih hcs.of_append.of_append steps
        ((b :: bs).reverse ++ (w.reverse ++ text)) q' (hlength (by simp)) (by omega)
      refine ⟨q'', ?_⟩
      rw [singleBody_word hbreak, hbody, List.append_assoc, List.append_assoc, List.append_assoc,
        readQuoted_gap hp (by simp) hword hgap, Gap.text_breaks hfeed, hread]
      simp

theorem coded?_of_toNat {c : Char} {digits : List Char} (hdigits : ∀ d ∈ digits, isHex d = true)
    (hvalue : ofDigits 16 digits = c.toNat) : coded? digits = some c := by
  have hall : digits.all isHex = true := List.all_eq_true.mpr hdigits
  have hvalid : c.toNat < 0xD800 ∨ (0xDFFF < c.toNat ∧ c.toNat ≤ 0x10FFFF) := by
    have h := c.valid
    simp only [UInt32.isValidChar, Nat.isValidChar] at h
    change c.toNat < 0xD800 ∨ (0xDFFF < c.toNat ∧ c.toNat < 0x110000) at h
    omega
  rw [coded?, hvalue, hall, if_pos (by simpa using hvalid), Char.ofNat_toNat]

theorem paddedHex_eq (width n : Nat) :
    paddedHex width n =
      List.replicate (width - (capitalDigits n).length) '0' ++ capitalDigits n := rfl

theorem length_paddedHex {width n : Nat} (hwidth : 0 < width) (h : n < 16 ^ width) :
    (paddedHex width n).length = width := by
  have hle := length_capitalDigits_le hwidth h
  rw [paddedHex_eq, List.length_append, List.length_replicate]
  omega

theorem coded?_paddedHex (width : Nat) (c : Char) : coded? (paddedHex width c.toNat) = some c := by
  apply coded?_of_toNat
  · intro d hd
    rw [paddedHex_eq, List.mem_append] at hd
    rcases hd with hd | hd
    · rw [List.eq_of_mem_replicate hd]
      decide
    · exact isHex_of_mem_capitalDigits hd
  · rw [paddedHex_eq, ofDigits_zeros, ofDigits_capitalDigits]

/-- The digits of an escape are passed over. -/
theorem readDouble_skip (acc skipped : List Char) (p : Position) (tail : List Char) :
    readDouble acc skipped.length p (skipped ++ tail) =
      readDouble acc 0 (p.along skipped.length) tail := by
  induction skipped generalizing p with
  | nil => rfl
  | cons c skipped ih =>
    rw [List.cons_append, List.length_cons, readDouble, ih, Position.next, Position.along_along,
      Nat.add_comm]

theorem readDouble_coded {mark : Char} {width : Nat} {c : Char} (acc : List Char) (p : Position)
    (tail : List Char) (hmark : codeLength? mark = some width) (hbreak : isBreak mark = false)
    (hshort : shortEscape? mark = none) (hwidth : 0 < width) (hc : c.toNat < 16 ^ width) :
    readDouble acc 0 p ('\\' :: mark :: paddedHex width c.toNat ++ tail) =
      readDouble (c :: acc) 0 (p.along (width + 2)) tail := by
  have hlength := length_paddedHex hwidth hc
  have hskip := readDouble_skip (c :: acc) (mark :: paddedHex width c.toNat) p.next tail
  rw [List.length_cons, hlength, Position.next, Position.along_along] at hskip
  have hlong : ¬(paddedHex width c.toNat ++ tail).length < width := by
    rw [List.length_append]
    omega
  have htake : (paddedHex width c.toNat ++ tail).take width = paddedHex width c.toNat :=
    List.take_left' hlength
  rw [List.cons_append, List.cons_append, readDouble]
  simp only [show isBlank '\\' = false by decide, show isBreak '\\' = false by decide,
    show ('\\' == '"') = false by decide, show ('\\' != '\\') = false by decide, hmark, hbreak,
    hshort, Bool.or_self, Bool.false_eq_true, if_false, if_neg hlong, htake, coded?_paddedHex]
  rw [← List.cons_append, Position.next, hskip, Nat.add_comm 1]

/-- A character between double quotes is read back; only a space ends a word. -/
theorem readDouble_doubleChar {c : Char} (hc : c ≠ ' ') (acc : List Char) (p : Position)
    (tail : List Char) :
    ∃ q : Position, p.column ≤ q.column ∧
      readDouble acc 0 p (doubleChar c ++ tail) = readDouble (c :: acc) 0 q tail := by
  have halong : ∀ n, p.column ≤ (p.along n).column := fun n => by
    rw [Position.column_along]
    omega
  have hrange : c.toNat < 16 ^ 8 := by
    have h := c.valid
    simp only [UInt32.isValidChar, Nat.isValidChar] at h
    change c.toNat < 0xD800 ∨ (0xDFFF < c.toNat ∧ c.toNat < 0x110000) at h
    omega
  unfold doubleChar
  split
  · next hshown =>
    simp only [Bool.and_eq_true, Bool.not_eq_true', bne_iff_ne] at hshown
    obtain ⟨⟨⟨hshow, hbreak⟩, hquote⟩, hslash⟩ := hshown
    have hblank : isBlank c = false := by
      by_contra hblank
      exact hc (isBlank_of_showable hshow (by simpa using hblank))
    refine ⟨p.next, halong 1, ?_⟩
    rw [List.singleton_append, readDouble.eq_def]
    simp [hblank, hbreak, hquote, hslash]
  · split
    all_goals first
      | exact ⟨p.along 2, halong 2, rfl⟩
      | skip
    split
    · exact ⟨p.along 4, halong 4, readDouble_coded acc p tail rfl rfl rfl (by decide) (by omega)⟩
    · split
      · exact ⟨p.along 6, halong 6,
          readDouble_coded acc p tail rfl rfl rfl (by decide) (by omega)⟩
      · exact ⟨p.along 10, halong 10,
          readDouble_coded acc p tail rfl rfl rfl (by decide) hrange⟩

theorem readDouble_word {w : List Char} (hw : ∀ c ∈ w, (c == ' ') = false) (acc : List Char)
    (p : Position) (tail : List Char) :
    ∃ q : Position, p.column ≤ q.column ∧
      readDouble acc 0 p (w.flatMap doubleChar ++ tail) =
        readDouble (w.reverse ++ acc) 0 q tail := by
  induction w generalizing acc p with
  | nil => exact ⟨p, Nat.le_refl _, rfl⟩
  | cons c w ih =>
    obtain ⟨hc, hw⟩ := List.forall_mem_cons.mp hw
    obtain ⟨q, hq, hchar⟩ := readDouble_doubleChar (by simpa using hc) acc p
      (w.flatMap doubleChar ++ tail)
    obtain ⟨q', hq', hword⟩ := ih hw (c :: acc) q
    refine ⟨q', by omega, ?_⟩
    rw [List.flatMap_cons, List.append_assoc, hchar, hword]
    simp

/-- A character between double quotes is written as it is or with a backslash. -/
theorem doubleChar_cases (c : Char) :
    (doubleChar c = [c] ∧ isShowable c = true ∧ isBreak c = false) ∨
      ∃ more, doubleChar c = '\\' :: more := by
  unfold doubleChar
  split
  · next hshown =>
    simp only [Bool.and_eq_true, Bool.not_eq_true'] at hshown
    exact .inl ⟨rfl, hshown.1.1⟩
  · exact .inr ⟨_, rfl⟩

theorem length_le_flatMap_doubleChar (cs : List Char) :
    cs.length ≤ (cs.flatMap doubleChar).length := by
  induction cs with
  | nil => exact Nat.le_refl _
  | cons c cs ih =>
    rw [List.flatMap_cons, List.length_append, List.length_cons]
    rcases doubleChar_cases c with ⟨hchar, _⟩ | ⟨more, hchar⟩
    · rw [hchar, List.length_singleton]
      omega
    · rw [hchar, List.length_cons]
      omega

theorem flatMap_doubleChar_blanks (n : Nat) :
    (List.replicate n ' ').flatMap doubleChar = List.replicate n ' ' := by
  rw [List.flatMap_replicate, show doubleChar ' ' = [' '] by decide]
  simp

theorem flatMap_doubleChar_startsWord {cs : List Char} (h : StartsWord (· == ' ') cs)
    (rest : List Char) :
    StartsWord isGap (cs.flatMap doubleChar ++ '"' :: rest) := by
  cases cs with
  | nil =>
    intro c hc
    cases hc
    decide
  | cons c cs =>
    have hspace : (c == ' ') = false := h c rfl
    intro d hd
    rw [List.flatMap_cons, List.append_assoc] at hd
    rcases doubleChar_cases c with ⟨hchar, hshow, hbreak⟩ | ⟨more, hchar⟩
    · rw [hchar] at hd
      cases hd
      rw [isGap, hbreak, Bool.or_false]
      by_contra hblank
      exact beq_eq_false_iff_ne.mp hspace (isBlank_of_showable hshow (by simpa using hblank))
    · rw [hchar] at hd
      cases hd
      decide

/-- A scalar between double quotes is read up to the closing quote. -/
theorem readQuoted_double {cs : List Char} (rest : List Char) (hpieces : Pieces (· == ' ') cs) :
    ∀ (steps : Nat) (text : List Char) (p : Position), cs.length < steps → p.column ≠ 0 →
      ∃ q : Position, readQuoted false steps text ⟨p, cs.flatMap doubleChar ++ '"' :: rest⟩ =
        .ok (text.reverse ++ cs, ⟨q, rest⟩) := by
  induction hpieces with
  | @word w hw =>
    intro steps text p hsteps hp
    obtain ⟨steps, rfl⟩ : ∃ n, steps = n + 1 := ⟨steps - 1, by omega⟩
    obtain ⟨q, _, hread⟩ := readDouble_word hw [] p ('"' :: rest)
    have hword : nextWord false p (w.flatMap doubleChar ++ '"' :: rest) =
        .ok (w.reverse, .quote, ⟨q.next, rest⟩) := by
      rw [nextWord, if_neg Bool.false_ne_true, hread, List.append_nil, readDouble.eq_def]
      rfl
    refine ⟨q.next, ?_⟩
    rw [readQuoted_quote hp (by simp) hword, List.reverse_append, List.reverse_reverse]
  | @more w gap rest' hw hrun hsep hstart hpieces ih =>
    intro steps text p hsteps hp
    obtain ⟨steps, rfl⟩ : ∃ n, steps = n + 1 := ⟨steps - 1, by omega⟩
    cases hrun with
    | breaks hne hbs =>
      obtain ⟨b, bs, rfl⟩ := List.exists_cons_of_ne_nil hne
      have hspace := eq_of_beq (hsep b List.mem_cons_self)
      have hbreak := hbs b List.mem_cons_self
      rw [hspace] at hbreak
      exact absurd hbreak (by decide)
    | blanks n =>
      have hbegin := flatMap_doubleChar_startsWord hstart rest
      obtain ⟨q, hq, hread⟩ := readDouble_word hw [] p
        (List.replicate (n + 1) ' ' ++ (rest'.flatMap doubleChar ++ '"' :: rest))
      have hword : nextWord false p (w.flatMap doubleChar ++
            (List.replicate (n + 1) ' ' ++ (rest'.flatMap doubleChar ++ '"' :: rest))) =
          .ok (w.reverse, .gap,
            ⟨q, List.replicate (n + 1) ' ' ++ (rest'.flatMap doubleChar ++ '"' :: rest)⟩) := by
        rw [nextWord, if_neg Bool.false_ne_true, hread, List.append_nil, List.replicate_succ,
          List.cons_append, readDouble.eq_def]
        rfl
      obtain ⟨q', hnext⟩ := ih steps ((List.replicate (n + 1) ' ').reverse ++ (w.reverse ++ text))
        (q.along (n + 1))
        (by simp only [List.length_append, List.length_replicate] at hsteps; omega)
        (by rw [Position.column_along]; omega)
      refine ⟨q', ?_⟩
      rw [List.flatMap_append, List.flatMap_append, flatMap_doubleChar_blanks, List.append_assoc,
        List.append_assoc,
        readQuoted_gap hp (by simp) hword (Gap.read_run_blanks 0 (n + 1) q hbegin),
        Gap.text_blanks, hnext]
      simp

theorem readQuotedScalar_single {cs rest : List Char} (h : fitsSingle cs = true)
    (hfeed : '\n' ∉ cs) (hrest : rest.head? ≠ some '\x27') (p : Position) :
    ∃ q : Position,
      readQuotedScalar true ⟨p, '\x27' :: (singleBody false cs ++ '\x27' :: rest)⟩ =
        .ok (cs, ⟨q, rest⟩) := by
  simp only [fitsSingle, isLegible, Bool.and_eq_true, Bool.not_eq_true', List.all_eq_true] at h
  obtain ⟨⟨hshow, hbefore⟩, hbehind⟩ := h
  rw [hasPair_eq_false_iff, List.isChain_iff_forall_rel_of_append_cons_cons] at hbefore hbehind
  have hsep : ∀ c ∈ cs, isGap c = true → c = ' ' ∨ isBreak c = true := by
    intro c hc hgap
    rw [isGap, Bool.or_eq_true] at hgap
    exact hgap.imp_left (isBlank_of_showable (hshow c hc))
  have hchain : cs.IsChain (Alike isGap) := by
    rw [List.isChain_iff_forall_rel_of_append_cons_cons]
    intro a b front back heq ha hb
    have hbefore := hbefore heq
    have hbehind := hbehind heq
    rcases hsep a (by simp [heq]) ha with rfl | habreak
    · rcases hsep b (by simp [heq]) hb with rfl | hbbreak
      · exact .inl ⟨rfl, rfl⟩
      · rw [hbbreak] at hbefore
        exact absurd hbefore (by decide)
    · rcases hsep b (by simp [heq]) hb with rfl | hbbreak
      · rw [habreak] at hbehind
        exact absurd hbehind (by decide)
      · exact .inr ⟨habreak, hbbreak⟩
  have hlength := length_le_singleBody false cs
  exact readQuoted_single (pieces_of_chain hsep hchain) ⟨hshow, hfeed⟩ hrest _ [] _
    (by simp only [List.length_cons, List.length_append]; omega) (by simp)

theorem readQuotedScalar_double (cs rest : List Char) (p : Position) :
    ∃ q : Position,
      readQuotedScalar false ⟨p, '"' :: (cs.flatMap doubleChar ++ '"' :: rest)⟩ =
        .ok (cs, ⟨q, rest⟩) := by
  have hpieces : Pieces (· == ' ') cs :=
    pieces_of_chain (fun c _ hc => .inl (eq_of_beq hc))
      (List.pairwise_of_forall_mem_list fun a _ b _ ha hb =>
        .inl ⟨eq_of_beq ha, eq_of_beq hb⟩).isChain
  have hlength := length_le_flatMap_doubleChar cs
  exact readQuoted_double rest hpieces _ [] _
    (by simp only [List.length_cons, List.length_append]; omega) (by simp)

end ServerLogin.Yaml
