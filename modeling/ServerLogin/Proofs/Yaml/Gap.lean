import ServerLogin.Proofs.Yaml.Pieces

/-!
Gaps are read back.  A run of spaces is read as it is; a run of line breaks is
read with the indentation behind it, which is not part of it.
-/

namespace ServerLogin.Yaml

@[simp] theorem Position.along_along (p : Position) (m n : Nat) :
    (p.along m).along n = p.along (m + n) := by
  simp only [along, Nat.add_assoc]

@[simp] theorem Position.column_along (p : Position) (n : Nat) :
    (p.along n).column = p.column + n := rfl

@[simp] theorem Position.column_nextLine (p : Position) (n : Nat) : (p.nextLine n).column = 0 := rfl

theorem isGap_eq_false_iff {c : Char} : isGap c = false ↔ isBlank c = false ∧ isBreak c = false :=
  Bool.or_eq_false_iff

namespace Gap

/-- A gap ends where a word begins. -/
theorem read_word (indent : Nat) (g : Gap) (p : Position) {rest : List Char}
    (h : StartsWord isGap rest) : read indent g p rest = .ok (g, ⟨p, rest⟩) := by
  cases rest with
  | nil => rfl
  | cons c rest =>
    obtain ⟨hblank, hbreak⟩ := isGap_eq_false_iff.mp (h c rfl)
    have hcarriage : c ≠ '\r' := by
      rintro rfl
      exact absurd hbreak (by decide)
    rw [read]
    · simp [hblank, hbreak]
    · rintro _ rfl
      exact absurd rfl hcarriage

theorem read_blanks (indent n : Nat) (g : Gap) (p : Position) (rest : List Char)
    (hg : g.hasBreak = false) :
    read indent g p (List.replicate n ' ' ++ rest) =
      read indent { g with blanks := List.replicate n ' ' ++ g.blanks } (p.along n) rest := by
  induction n generalizing g p with
  | zero => rfl
  | succ n ih =>
    have hcons : List.replicate (n + 1) ' ' ++ g.blanks
        = List.replicate n ' ' ++ ' ' :: g.blanks := by
      rw [List.replicate_succ', List.append_assoc, List.singleton_append]
    have hstep : read indent g p (' ' :: (List.replicate n ' ' ++ rest)) =
        read indent { g with blanks := ' ' :: g.blanks } p.next (List.replicate n ' ' ++ rest) := by
      rw [read]
      · simp [show isBreak ' ' = false by decide, show isBlank ' ' = true by decide, hg]
      · nofun
    rw [List.replicate_succ, List.cons_append, hstep, ih { g with blanks := ' ' :: g.blanks } _ hg,
      Position.next, Position.along_along, Nat.add_comm 1 n, ← List.replicate_succ, hcons]

theorem read_indentation (indent n : Nat) (g : Gap) (p : Position) (rest : List Char)
    (hg : g.hasBreak = true) :
    read indent g p (List.replicate n ' ' ++ rest) = read indent g (p.along n) rest := by
  induction n generalizing p with
  | zero => rfl
  | succ n ih =>
    rw [List.replicate_succ, List.cons_append, read]
    · simp only [show isBreak ' ' = false by decide, show isBlank ' ' = true by decide, hg,
        show (' ' == '\t') = false by decide, Bool.not_true, Bool.false_and, Bool.false_eq_true,
        if_false]
      rw [ih, Position.next, Position.along_along, Nat.add_comm]
    · nofun

theorem read_breaks (indent : Nat) (g : Gap) (p : Position) {bs : List Char}
    (hbs : ∀ b ∈ bs, isShowable b = true ∧ isBreak b = true) (rest : List Char) :
    ∃ q : Position, (bs ≠ [] → q.column = 0) ∧ read indent g p (bs ++ rest) =
      read indent { g with breaks := bs.reverse ++ g.breaks } q rest := by
  induction bs generalizing g p with
  | nil => exact ⟨p, nofun, rfl⟩
  | cons b bs ih =>
    obtain ⟨⟨hshow, hbreak⟩, hbs⟩ := List.forall_mem_cons.mp hbs
    obtain ⟨hnormal, hcarriage⟩ := normalBreak_of_showable hshow hbreak
    obtain ⟨q, hq, hread⟩ := ih { g with breaks := b :: g.breaks } (p.nextLine 1) hbs
    have hstep : read indent g p (b :: (bs ++ rest)) =
        read indent { g with breaks := b :: g.breaks } (p.nextLine 1) (bs ++ rest) := by
      rw [read]
      · rw [if_pos hbreak, hnormal]
      · rintro _ rfl
        exact absurd rfl hcarriage
    cases bs with
    | nil => exact ⟨p.nextLine 1, fun _ => rfl, hstep⟩
    | cons b' bs =>
      refine ⟨q, fun _ => hq nofun, ?_⟩
      rw [List.cons_append, hstep, hread, List.reverse_cons (a := b), List.append_assoc,
        List.singleton_append]

theorem read_run_blanks (indent n : Nat) (p : Position) {rest : List Char}
    (h : StartsWord isGap rest) :
    read indent {} p (List.replicate n ' ' ++ rest) =
      .ok ({ blanks := List.replicate n ' ' }, ⟨p.along n, rest⟩) := by
  rw [read_blanks _ _ _ _ _ rfl, read_word _ _ _ h, List.append_nil]

/-- A run of line breaks is read back, without the indentation behind it. -/
theorem read_run_breaks (indent n : Nat) (p : Position) {bs rest : List Char} (hne : bs ≠ [])
    (hbs : ∀ b ∈ bs, isShowable b = true ∧ isBreak b = true) (h : StartsWord isGap rest) :
    ∃ q : Position, q.column = n ∧ read indent {} p (bs ++ (List.replicate n ' ' ++ rest)) =
      .ok ({ breaks := bs.reverse }, ⟨q, rest⟩) := by
  obtain ⟨q, hq, hread⟩ := read_breaks indent {} p hbs (List.replicate n ' ' ++ rest)
  have hbroken : hasBreak { breaks := bs.reverse } = true := by
    simpa [hasBreak] using hne
  refine ⟨q.along n, by rw [Position.column_along, hq hne, Nat.zero_add], ?_⟩
  rw [hread, List.append_nil, read_indentation _ _ _ _ _ hbroken, read_word _ _ _ h]

theorem text_blanks (n : Nat) : text { blanks := List.replicate n ' ' } = List.replicate n ' ' :=
  List.reverse_replicate ..

theorem text_breaks {bs : List Char} (h : '\n' ∉ bs) : text { breaks := bs.reverse } = bs := by
  rw [text]
  simp only [List.reverse_reverse, Bool.false_eq_true, if_false, List.reverse_nil]
  cases bs with
  | nil => rfl
  | cons b bs =>
    have hb : b ≠ '\n' := fun hb => h (hb ▸ List.mem_cons_self)
    exact if_neg hb

end Gap
end ServerLogin.Yaml
