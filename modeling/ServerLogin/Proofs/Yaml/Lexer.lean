import ServerLogin.Proofs.Yaml.Literal
import ServerLogin.Proofs.Yaml.Plain
import ServerLogin.Proofs.Yaml.Quoted

/-!
From the characters of a written mapping to its tokens.  A field takes three steps
of the lexer: the key, the colon and the value.
-/

namespace ServerLogin.Yaml

/-- The scalar that a value is read back as. -/
def Content.scalar : Content → Scalar
  | .text s => ⟨s, styleOf s, none⟩
  | .bool b => ⟨if b then "true" else "false", .plain, none⟩
  | .integer n => ⟨Number.integerText n, .plain, none⟩
  | .number x => ⟨x.text .document, .plain, none⟩

/-- Whether a text begins with a field or is at its end. -/
def StartsField (cs : List Char) : Prop := ∀ c ∈ cs.head?, isKeyChar c = true

theorem StartsField.startsWord {cs : List Char} (h : StartsField cs) : StartsWord isGap cs :=
  fun c hc => isGap_of_isKeyChar (h c hc)

namespace Lexer

/-- The lexer gets from one state to another in some steps. -/
def Leads (n : Nat) (l l' : Lexer) : Prop := ∀ steps, run (steps + n) l = run steps l'

theorem Leads.trans {m n : Nat} {l l' l'' : Lexer} (h : Leads m l l') (h' : Leads n l' l'') :
    Leads (n + m) l l'' := fun steps => by
  rw [← Nat.add_assoc, h, h']

/-- The lexer stands before a line of a mapping, perhaps with a line break still to
be passed over. -/
structure AtLine (l : Lexer) (rest : List Char) : Prop where
  gap : ∃ q : Position, q.column = 0 ∧
    skipGap false l.keyAllowed false l.cursor.position l.cursor.rest = (true, ⟨q, rest⟩)
  keys : l.keys = [none]
  indents : l.indents = [] ∨ l.indents = [0]

/-- The lexer stands behind a colon. -/
structure AtValue (l : Lexer) (rest : List Char) : Prop where
  rest : l.cursor.rest = ' ' :: rest
  column : l.cursor.position.column ≠ 0
  keyAllowed : l.keyAllowed = false
  keys : l.keys = [none]
  indents : l.indents = [0]

theorem skipGap_word (keyAllowed : Bool) (p : Position) {rest : List Char}
    (hstart : StartsWord isGap rest) (hmark : ∀ c ∈ rest.head?, c ≠ '#' ∧ c.toNat ≠ 0xFEFF) :
    skipGap false keyAllowed false p rest = (keyAllowed, ⟨p, rest⟩) := by
  cases rest with
  | nil => rfl
  | cons c rest =>
    obtain ⟨hblank, hbreak⟩ := isGap_eq_false_iff.mp (hstart c rfl)
    obtain ⟨hhash, hbom⟩ := hmark c rfl
    have hcarriage : c ≠ '\r' := by
      rintro rfl
      exact absurd hbreak (by decide)
    simp only [isBlank, Bool.or_eq_false_iff] at hblank
    rw [skipGap, hbreak, hblank.1, hblank.2]
    · simp [hhash, hbom]
    · rintro _ rfl
      exact absurd rfl hcarriage

theorem skipGap_field (keyAllowed : Bool) (p : Position) {rest : List Char}
    (h : StartsField rest) : skipGap false keyAllowed false p rest = (keyAllowed, ⟨p, rest⟩) := by
  apply skipGap_word _ _ h.startsWord
  intro c hc
  have hkey := h c hc
  constructor
  · rintro rfl
    exact absurd hkey (by decide)
  · have hrange := toNat_of_isKeyChar hkey
    omega

/-- A key start on the line that is being read is kept. -/
theorem dropStale_fresh {l : Lexer} {key : Option KeyStart} (h : l.keys = [key])
    (hfresh : ∀ k ∈ key, ¬(k.position.line < l.cursor.position.line ∨
      k.position.index + 1024 < l.cursor.position.index)) : l.dropStale = .ok l := by
  obtain ⟨cursor, tokens, indents, keyAllowed, keys⟩ := l
  cases h
  cases key with
  | none => rfl
  | some k =>
    have hk := hfresh k rfl
    simp only [dropStale, List.mapM_cons, List.mapM_nil, pure, bind, Except.pure, Except.bind,
      Bool.or_eq_true, decide_eq_true_eq, if_neg hk]

/-- At the top level a line closes no mapping. -/
theorem closeBlocks_some {l : Lexer} (h : l.indents = [] ∨ l.indents = [0]) (column : Nat) :
    l.closeBlocks (some column) = l := by
  obtain ⟨cursor, tokens, indents, keyAllowed, keys⟩ := l
  unfold closeBlocks
  split
  · rfl
  · rcases h with h | h
    · cases h
      simp
    · cases h
      simp

/-- One step of the lexer outside brackets, where no key start is given up. -/
theorem run_succ {l : Lexer} {key : Option KeyStart} {keyAllowed : Bool} {q : Position} {c : Char}
    {rest : List Char} (steps : Nat) (hkeys : l.keys = [key])
    (hindents : l.indents = [] ∨ l.indents = [0])
    (hgap : skipGap false l.keyAllowed false l.cursor.position l.cursor.rest =
      (keyAllowed, ⟨q, c :: rest⟩))
    (hfresh : ∀ k ∈ key, ¬(k.position.line < q.line ∨ k.position.index + 1024 < q.index)) :
    run (steps + 1) l =
      ({ l with keyAllowed := keyAllowed, cursor := ⟨q, c :: rest⟩ }.token c rest).bind
        (run steps) := by
  have hflow : l.inFlow = false := by rw [inFlow, hkeys]; rfl
  have hstale := dropStale_fresh
    (l := { l with keyAllowed := keyAllowed, cursor := ⟨q, c :: rest⟩ }) hkeys hfresh
  have hclose := closeBlocks_some
    (l := { l with keyAllowed := keyAllowed, cursor := ⟨q, c :: rest⟩ }) hindents q.column
  rw [run, hflow]
  simp only [hgap, hstale, bind, Except.bind, hclose]

/-- What begins no other token begins a plain scalar. -/
theorem token_plain {l : Lexer} {c : Char} {rest : List Char} (hflow : l.inFlow = false)
    (hline : l.cursor.position.column = 0 → c ≠ '%' ∧ atDocumentMark (c :: rest) = false)
    (hdash : c = '-' → atGap rest = false) (hc : startsPlain false (c :: rest) = true) :
    l.token c rest = l.plainScalar := by
  have hstart : (l.cursor.position.column == 0 && c == '%') = false ∧
      (l.cursor.position.column == 0 && atDocumentMark (c :: rest)) = false := by
    by_cases hcolumn : l.cursor.position.column = 0
    · obtain ⟨hpercent, hmark⟩ := hline hcolumn
      rw [beq_eq_false_iff_ne.mpr hpercent, hmark]
      exact ⟨Bool.and_false _, Bool.and_false _⟩
    · rw [beq_eq_false_iff_ne.mpr hcolumn]
      exact ⟨rfl, rfl⟩
  have hnot : ∀ d : Char, startsPlain false (d :: rest) = false → c ≠ d := by
    rintro d hd rfl
    rw [hc] at hd
    cases hd
  have hgap : ∀ d : Char, (d = '-' ∨ d = '?' ∨ d = ':') → (c == d && atGap rest) = false := by
    intro d hd
    by_cases hcd : c = d
    · subst hcd
      rcases hd with rfl | rfl | rfl
      · exact hdash rfl
      · simpa [startsPlain] using hc
      · simpa [startsPlain] using hc
    · rw [beq_eq_false_iff_ne.mpr hcd, Bool.false_and]
  have hblock : (c == '|' || c == '>') = false := by
    rw [beq_eq_false_iff_ne.mpr (hnot '|' rfl), beq_eq_false_iff_ne.mpr (hnot '>' rfl)]
    rfl
  unfold token
  simp only [hflow, hstart.1, hstart.2, Bool.false_eq_true, if_false]
  split
  all_goals first
    | exact absurd rfl (hnot _ rfl)
    | skip
  simp only [hgap '-' (.inl rfl), hgap '?' (.inr (.inl rfl)), hgap ':' (.inr (.inr rfl)), hblock,
    Bool.false_or, Bool.false_and, Bool.false_eq_true, if_false, hc, if_true]

theorem startsPlain_key {c : Char} (h : isKeyChar c = true) (rest : List Char) :
    startsPlain false (c :: rest) = true := by
  have hnot : ∀ d : Char, isKeyChar d = false → (c == d) = false := by
    intro d hd
    rw [beq_eq_false_iff_ne]
    rintro rfl
    rw [h] at hd
    cases hd
  obtain ⟨hblank, hbreak⟩ := isGap_eq_false_iff.mp (isGap_of_isKeyChar h)
  have hspecial : (",[]\x7b\x7d#&*!|>\x27\"%@\x60".toList.contains c) = false := by
    rw [Bool.eq_false_iff]
    intro hmem
    have hother : ",[]\x7b\x7d#&*!|>\x27\"%@\x60".toList.all (!isKeyChar ·) = true := by decide
    have hc := List.all_eq_true.mp hother c (List.contains_iff_mem.mp hmem)
    rw [h] at hc
    cases hc
  rw [startsPlain, hnot '-' (by decide), hnot '?' (by decide), hnot ':' (by decide), hblank,
    hbreak, hspecial]
  rfl

/-- A key is read, and the place where it begins is remembered. -/
theorem run_key {l : Lexer} {key rest : List Char} (hne : key ≠ [])
    (hkey : ∀ c ∈ key, isKeyChar c = true) (hrest : atGap rest = true)
    (h : l.AtLine (key ++ ':' :: rest)) :
    ∃ (q : Position) (required : Bool), q.column = 0 ∧ Leads 1 l
      { cursor := ⟨q.along key.length, ':' :: rest⟩
        tokens := l.tokens.push (.scalar (String.ofList key) .plain)
        indents := l.indents
        keyAllowed := false
        keys := [some ⟨required, l.tokens.size, q⟩] } := by
  obtain ⟨⟨q, hq, hgap⟩, hkeys, hindents⟩ := h
  have hword := PlainScalar.read_key hne hkey hrest
  obtain ⟨c, key, rfl⟩ := List.exists_cons_of_ne_nil hne
  have hc := hkey c List.mem_cons_self
  have hnot : ∀ d : Char, isKeyChar d = false → c ≠ d := by
    rintro d hd rfl
    rw [hc] at hd
    cases hd
  have hmark : atDocumentMark (c :: (key ++ ':' :: rest)) = false := by
    rw [atDocumentMark]
    · exact fun _ h => hnot '-' (by decide) (List.cons.inj h).1
    · exact fun _ h => hnot '.' (by decide) (List.cons.inj h).1
  rw [List.cons_append] at hgap
  refine ⟨q, l.indents.head? == some q.column, hq, fun steps => ?_⟩
  rw [run_succ steps hkeys hindents hgap fun k hk => absurd hk (Option.not_mem_none k),
    token_plain (by rw [inFlow, hkeys]; rfl) (fun _ => ⟨hnot '%' (by decide), hmark⟩)
      (fun hdash => absurd hdash (hnot '-' (by decide))) (startsPlain_key hc _)]
  have hword := fun indent => hword indent q
  rw [List.cons_append] at hword
  obtain ⟨cursor, tokens, indents, keyAllowed, keys⟩ := l
  cases hkeys
  rcases hindents with hindents | hindents
  all_goals
    cases hindents
    simp only [plainScalar, saveKey, dropKey, inFlow, List.length_singleton, Nat.lt_irrefl,
      decide_false, bind, pure, Except.bind, Except.pure, Bool.not_true, Bool.not_false,
      Bool.true_and, Bool.false_eq_true, if_false, List.drop_succ_cons, List.drop_zero, hword]
    rfl

/-- A token is put between the tokens before and behind a place. -/
theorem toList_insert {l : Lexer} {count : Nat} {token : Token} {front back : List Token}
    (h : l.tokens.toList = front ++ back) (hcount : count = front.length) :
    (l.insert count token).tokens.toList = front ++ token :: back := by
  have hsize : l.tokens.size = (front ++ back).length := by rw [← h, Array.length_toList]
  have htake : l.tokens.toList.take count = front := by rw [h, hcount, List.take_left]
  have hdrop : l.tokens.toList.drop count = back := by rw [h, hcount, List.drop_left]
  simp only [insert, Array.toList_append, Array.toList_extract, List.extract_eq_take_drop,
    List.drop_zero, Nat.sub_zero, htake, hdrop]
  rw [List.take_of_length_le]
  · simp
  · rw [hsize, List.length_append]
    omega

/-- At the colon the key gets its token, and the first key opens the mapping. -/
theorem run_colon (required : Bool) (tokens : Array Token) (scalar : Token) (rest : List Char)
    {p q : Position} {indents : List Nat} (hindents : indents = [] ∨ indents = [0])
    (hp : p.column ≠ 0) (hq : q.column = 0) (hline : p.line = q.line)
    (hindex : p.index ≤ q.index + 1024) :
    ∃ tokens' : Array Token, Leads 1
        { cursor := ⟨p, ':' :: ' ' :: rest⟩, tokens := tokens.push scalar, indents := indents,
          keyAllowed := false, keys := [some ⟨required, tokens.size, q⟩] }
        { cursor := ⟨p.along 1, ' ' :: rest⟩, tokens := tokens', indents := [0],
          keyAllowed := false, keys := [none] } ∧
      tokens'.toList = tokens.toList ++ (if indents = [] then [.blockMappingStart] else []) ++
        [.key, scalar, .value] := by
  have hgap : skipGap false false false p (':' :: ' ' :: rest) = (false, ⟨p, ':' :: ' ' :: rest⟩) :=
    skipGap_word _ _ (by intro c hc; cases hc; decide) (by intro c hc; cases hc; decide)
  have hfresh : ∀ k ∈ some (⟨required, tokens.size, q⟩ : KeyStart),
      ¬(k.position.line < p.line ∨ k.position.index + 1024 < p.index) := by
    intro k hk
    cases hk
    simp only
    omega
  have htoken : ∀ l : Lexer, l.inFlow = false → l.cursor.position = p →
      l.token ':' (' ' :: rest) = l.mappingValue := by
    intro l hflow hcursor
    unfold Lexer.token
    simp [hflow, hcursor, hp, atGap, isBlank]
  obtain ⟨index, line, column⟩ := q
  cases hq
  let l : Lexer :=
    { cursor := ⟨p, ':' :: ' ' :: rest⟩, tokens := tokens.push scalar, indents := indents,
      keyAllowed := false, keys := [some ⟨required, tokens.size, ⟨index, line, 0⟩⟩] }
  have hkey : (l.insert tokens.size .key).tokens.toList = tokens.toList ++ [.key, scalar] :=
    toList_insert (Array.toList_push ..) rfl
  rcases hindents with hindents | hindents
  · subst hindents
    have hopen : ((l.insert tokens.size .key).insert tokens.size .blockMappingStart).tokens.toList =
        tokens.toList ++ [.blockMappingStart, .key, scalar] := toList_insert hkey rfl
    refine ⟨
      (((l.insert tokens.size .key).insert tokens.size .blockMappingStart).push .value).tokens,
      fun steps => ?_, ?_⟩
    · rw [run_succ steps rfl (.inl rfl) hgap hfresh, htoken _ rfl rfl]
      rfl
    · rw [push, Array.toList_push, hopen]
      simp
  · subst hindents
    refine ⟨((l.insert tokens.size .key).push .value).tokens, fun steps => ?_, ?_⟩
    · rw [run_succ steps rfl (.inr rfl) hgap hfresh, htoken _ rfl rfl]
      rfl
    · rw [push, Array.toList_push, hkey]
      simp

/-- The lexer where a value begins: behind the space behind the colon. -/
def valueStart (tokens : Array Token) (p : Position) (cs : List Char) : Lexer :=
  { cursor := ⟨p, cs⟩, tokens := tokens, indents := [0], keyAllowed := false, keys := [none] }

/-- Behind the colon the space is passed over. -/
theorem AtValue.run {l : Lexer} {c : Char} {rest : List Char} (h : l.AtValue (c :: rest))
    (hgap : isGap c = false) (hmark : c ≠ '#' ∧ c.toNat ≠ 0xFEFF) :
    ∃ p : Position, p.column ≠ 0 ∧ ∀ steps, Lexer.run (steps + 1) l =
      ((valueStart l.tokens p (c :: rest)).token c rest).bind (Lexer.run steps) := by
  obtain ⟨hrest, hcolumn, hallowed, hkeys, hindents⟩ := h
  obtain ⟨⟨p, cs⟩, tokens, indents, keyAllowed, keys⟩ := l
  cases hrest
  cases hallowed
  cases hkeys
  cases hindents
  have hskip : skipGap false false false p (' ' :: c :: rest) = (false, ⟨p.next, c :: rest⟩) := by
    rw [skipGap]
    · have hword : skipGap false false false p.next (c :: rest) = (false, ⟨p.next, c :: rest⟩) :=
        skipGap_word false p.next (by intro d hd; cases hd; exact hgap)
          (by intro d hd; cases hd; exact hmark)
      simpa [show isBreak ' ' = false by decide] using hword
    · nofun
  refine ⟨p.next, by simp [Position.next], fun steps => ?_⟩
  have hfresh : ∀ k ∈ (none : Option KeyStart),
      ¬(k.position.line < p.next.line ∨ k.position.index + 1024 < p.next.index) :=
    fun k hk => absurd hk (Option.not_mem_none k)
  rw [run_succ steps rfl (.inr rfl) hskip hfresh]
  rfl

theorem atLine_of_feed {tokens : Array Token} {p : Position} {rest : List Char}
    (h : StartsField rest) : AtLine (valueStart tokens p ('\n' :: rest)) rest := by
  refine ⟨⟨p.nextLine 1, rfl, ?_⟩, rfl, .inr rfl⟩
  change skipGap false false false p ('\n' :: rest) = _
  rw [skipGap]
  · simpa [show isBreak '\n' = true by decide] using skipGap_field true (p.nextLine 1) h
  · nofun

theorem startsPlain_of_fitsPlain {c : Char} {cs : List Char} (h : fitsPlain (c :: cs) = true)
    (rest : List Char) :
    startsPlain false (c :: (cs ++ '\n' :: rest)) = true ∧
      (c = '-' → atGap (cs ++ '\n' :: rest) = false) ∧ isGap c = false ∧ c ≠ '#' := by
  obtain ⟨hshow, hbreak⟩ := (plainRest_of_fitsPlain h).showable c List.mem_cons_self
  simp only [fitsPlain, Bool.and_eq_true, bne_iff_ne, Bool.not_eq_true'] at h
  obtain ⟨⟨⟨⟨_, hhead⟩, _⟩, hstart⟩, _⟩ := h
  have hblank : isBlank c = false := by
    by_contra hblank
    exact hhead (congrArg some (isBlank_of_showable hshow (by simpa using hblank)))
  simp only [startsOtherwise, Bool.or_eq_false_iff] at hstart
  obtain ⟨⟨⟨hspecial, hgap⟩, _⟩, _⟩ := hstart
  have hnot : ∀ d ∈ "#,[]\x7b\x7d&*!|>\x27\"%@\x60".toList, c ≠ d := by
    rintro d hd rfl
    rw [Bool.eq_false_iff] at hspecial
    exact hspecial (List.contains_iff_mem.mpr hd)
  have hafter : (c == '?' || c == ':' || c == '-') = true → atGap (cs ++ '\n' :: rest) = false := by
    intro hc
    rw [hc, Bool.true_and] at hgap
    cases cs with
    | nil => cases hgap
    | cons d cs => exact hgap
  refine ⟨?_, fun hdash => hafter (by simp [hdash]), isGap_eq_false_iff.mpr ⟨hblank, hbreak⟩,
    hnot '#' (by decide)⟩
  rw [startsPlain]
  split
  · next hdash =>
    have hnext := hafter (by simp [eq_of_beq hdash])
    cases htail : cs ++ '\n' :: rest with
    | nil => rfl
    | cons d more =>
      rw [htail, atGap_cons] at hnext
      rw [List.head?_cons, Option.any_some, (isGap_eq_false_iff.mp hnext).1]
      rfl
  · split
    · next hmark =>
      rw [hafter (by rw [hmark, Bool.true_or])]
      rfl
    · have hplain : (",[]\x7b\x7d#&*!|>\x27\"%@\x60".toList.contains c) = false := by
        rw [Bool.eq_false_iff]
        intro hmem
        have hsame : ",[]\x7b\x7d#&*!|>\x27\"%@\x60".toList.all
            ("#,[]\x7b\x7d&*!|>\x27\"%@\x60".toList.contains ·) = true := by decide
        have hc := List.all_eq_true.mp hsame c (List.contains_iff_mem.mp hmem)
        exact hnot c (List.contains_iff_mem.mp hc) rfl
      rw [hblank, hbreak, hplain]
      rfl

theorem run_plain {l : Lexer} {cs rest : List Char} (h : l.AtValue (cs ++ '\n' :: rest))
    (hfits : fitsPlain cs = true) (hne : cs ≠ []) (hrest : StartsField rest) :
    ∃ l' : Lexer, Leads 1 l l' ∧ l'.AtLine rest ∧ l'.indents = [0] ∧
      l'.tokens = l.tokens.push (.scalar (String.ofList cs) .plain) := by
  have hshow := (plainRest_of_fitsPlain hfits).showable
  obtain ⟨c, cs, rfl⟩ := List.exists_cons_of_ne_nil hne
  rw [List.cons_append] at h
  obtain ⟨hplain, hdash, hgap, hcomment⟩ := startsPlain_of_fitsPlain hfits rest
  have hbom : c.toNat ≠ 0xFEFF := by
    intro hbom
    have hc := (hshow c List.mem_cons_self).1
    simp [isShowable, hbom] at hc
  obtain ⟨p, hp, hrun⟩ := AtValue.run h hgap ⟨hcomment, hbom⟩
  obtain ⟨q, hq, hread⟩ := PlainScalar.read_of_fitsPlain hfits hne hrest.startsWord hp
  refine ⟨⟨⟨q, rest⟩, l.tokens.push (.scalar (String.ofList (c :: cs)) .plain), [0], true, [none]⟩,
    fun steps => ?_,
    ⟨⟨q, hq, skipGap_field true q hrest⟩, rfl, .inr rfl⟩, rfl, rfl⟩
  rw [hrun steps]
  have htoken := token_plain (l := valueStart l.tokens p (c :: (cs ++ '\n' :: rest))) rfl
    (fun hcolumn => absurd hcolumn hp) hdash hplain
  rw [List.cons_append] at hread
  rw [htoken]
  simp only [valueStart, plainScalar, saveKey, inFlow, List.length_singleton, Nat.lt_irrefl,
    decide_false, bind, pure, Except.bind, Except.pure, Bool.not_false, if_true, hread]
  rfl

theorem run_quoted {l : Lexer} {cs body rest : List Char} (single : Bool)
    (h : l.AtValue ((if single then '\x27' else '"') :: body))
    (hread : ∀ p : Position, ∃ q : Position,
      readQuotedScalar single ⟨p, (if single then '\x27' else '"') :: body⟩ =
        .ok (cs, ⟨q, '\n' :: rest⟩)) (hrest : StartsField rest) :
    ∃ l' : Lexer, Leads 1 l l' ∧ l'.AtLine rest ∧ l'.indents = [0] ∧
      l'.tokens = l.tokens.push
        (.scalar (String.ofList cs) (if single then .singleQuoted else .doubleQuoted)) := by
  obtain ⟨p, hp, hrun⟩ := AtValue.run h (by cases single <;> decide) (by cases single <;> decide)
  obtain ⟨q, hscalar⟩ := hread p
  refine ⟨valueStart (l.tokens.push (.scalar (String.ofList cs)
    (if single then .singleQuoted else .doubleQuoted))) q ('\n' :: rest), fun steps => ?_,
    atLine_of_feed hrest, rfl, rfl⟩
  have htoken : (valueStart l.tokens p ((if single then '\x27' else '"') :: body)).token
      (if single then '\x27' else '"') body =
        (valueStart l.tokens p ((if single then '\x27' else '"') :: body)).quotedScalar single := by
    cases single <;> simp [token, valueStart, atDocumentMark]
  rw [hrun steps, htoken]
  simp only [valueStart, quotedScalar, saveKey, bind, pure, Except.bind, Except.pure,
    Bool.not_false, if_true, hscalar]
  rfl

theorem run_literal {l : Lexer} {cs rest : List Char}
    (h : l.AtValue
      ('|' :: (literalHints cs ++ '\n' :: (literalBody true cs ++ (ending cs ++ rest)))))
    (hfits : fitsLiteral cs = true) (hne : cs ≠ []) (hrest : StartsField rest) :
    ∃ l' : Lexer, Leads 1 l l' ∧ l'.AtLine rest ∧ l'.indents = [0] ∧
      l'.tokens = l.tokens.push (.scalar (String.ofList cs) .literal) := by
  obtain ⟨p, hp, hrun⟩ := AtValue.run h (by decide) (by decide)
  obtain ⟨q, hq, hread⟩ := readBlockScalar_literal hfits hne hrest.startsWord p
  refine ⟨⟨⟨q, rest⟩, l.tokens.push (.scalar (String.ofList cs) .literal), [0], true, [none]⟩,
    fun steps => ?_,
    ⟨⟨q, hq, skipGap_field true q hrest⟩, rfl, .inr rfl⟩, rfl, rfl⟩
  have htoken : ∀ body, (valueStart l.tokens p ('|' :: body)).token '|' body =
      (valueStart l.tokens p ('|' :: body)).blockScalar false := by
    intro body
    simp [token, valueStart, inFlow, atDocumentMark]
  rw [hrun steps, htoken]
  simp only [valueStart, blockScalar, dropKey, bind, pure, Except.bind, Except.pure,
    List.head?_cons, hread]
  rfl

end Lexer
end ServerLogin.Yaml
