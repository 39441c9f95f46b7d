import ServerLogin.Text.Combining
import ServerLogin.Text.Decomposition

/-!
Canonical composition (normalization form C).  A text is taken apart into base
characters and marks, the marks on each base are sorted by combining class, and
what can be put together again is put together from left to right.
-/

namespace ServerLogin.Text

/-- The leading, vowel and trailing parts of a Hangul syllable. -/
private def hangulParts (c : Char) : Option (List Char) :=
  if 0xAC00 ≤ c.toNat ∧ c.toNat < 0xAC00 + 11172 then
    let index := c.toNat - 0xAC00
    let syllable := [Char.ofNat (0x1100 + index / 588), Char.ofNat (0x1161 + index % 588 / 28)]
    if index % 28 = 0 then some syllable
    else some (syllable ++ [Char.ofNat (0x11A7 + index % 28)])
  else none

/-- Take a character apart; no composite is nested more than four deep. -/
private def decomposeTo : Nat → Char → List Char
  | 0, c => [c]
  | depth + 1, c =>
    match hangulParts c with
    | some parts => parts
    | none =>
      match decomposition? c with
      | some parts => parts.flatMap (decomposeTo depth)
      | none => [c]

/-- Put a mark behind the marks of a lower or equal class that end a reversed
text, so that marks of one class keep their order. -/
private def insertMark (c : Char) : List Char → List Char
  | [] => [c]
  | d :: rest =>
    if combiningClass c < combiningClass d then d :: insertMark c rest else c :: d :: rest

/-- The canonical decomposition of a text, marks in canonical order. -/
def decompose (cs : List Char) : List Char :=
  ((cs.flatMap (decomposeTo 5)).foldl
    (fun back c => if combiningClass c = 0 then c :: back else insertMark c back) []).reverse

/-- Compose two Hangul parts, or a base and a mark. -/
def compose? (a b : Char) : Option Char :=
  let x := a.toNat
  let y := b.toNat
  if 0x1100 ≤ x ∧ x < 0x1113 ∧ 0x1161 ≤ y ∧ y < 0x1176 then
    some (Char.ofNat (0xAC00 + ((x - 0x1100) * 21 + (y - 0x1161)) * 28))
  else if 0xAC00 ≤ x ∧ x < 0xAC00 + 11172 ∧ (x - 0xAC00) % 28 = 0 ∧ 0x11A7 < y ∧ y < 0x11C3 then
    some (Char.ofNat (x + (y - 0x11A7)))
  else primaryComposite? a b

/-- What composition has built so far: the text up to the current base in
reverse, the base, and the marks that stayed behind it in reverse. -/
private structure Cluster where
  done : List Char
  base : Option Char
  marks : List Char

private def Cluster.text (k : Cluster) : List Char :=
  k.marks ++ k.base.toList ++ k.done

/-- Add one character of a decomposed text.  It joins the base unless a mark of
the same or a higher class stands between them. -/
private def Cluster.add (k : Cluster) (c : Char) : Cluster :=
  let blocked := match k.marks with
    | [] => false
    | m :: _ => combiningClass m = 0 || combiningClass c ≤ combiningClass m
  let joined := match k.base with
    | some b => if blocked then none else compose? b c
    | none => none
  match joined with
  | some d => { k with base := some d }
  | none =>
    if combiningClass c = 0 then { done := k.text, base := some c, marks := [] }
    else { k with marks := c :: k.marks }

/-- Normalization form C. -/
def compose (cs : List Char) : List Char :=
  if cs.all (·.toNat < 0xC0) then cs
  else ((decompose cs).foldl Cluster.add ⟨[], none, []⟩).text.reverse

private theorem decomposeTo_of_lt {c : Char} (h : c.toNat < 0xC0) (depth : Nat) :
    decomposeTo (depth + 1) c = [c] := by
  have hsyllable : hangulParts c = none := by
    rw [hangulParts, if_neg]
    omega
  simp only [decomposeTo, hsyllable, decomposition?_of_lt h]

private theorem mem_insertMark {c d : Char} {cs : List Char} :
    c ∈ insertMark d cs ↔ c = d ∨ c ∈ cs := by
  induction cs with
  | nil => simp [insertMark]
  | cons e rest ih =>
    rw [insertMark]
    split
    · rw [List.mem_cons, ih, List.mem_cons]
      exact or_left_comm
    · rw [List.mem_cons]

private theorem mem_foldl_insertMark {c : Char} {cs back : List Char} (h : c ∈ back ∨ c ∈ cs) :
    c ∈ cs.foldl (fun back c =>
      if combiningClass c = 0 then c :: back else insertMark c back) back := by
  induction cs generalizing back with
  | nil => simpa using h
  | cons d rest ih =>
    apply ih
    have hstep : c ∈ back ∨ c = d → c ∈
        if combiningClass d = 0 then d :: back else insertMark d back := by
      intro hc
      split
      · exact List.mem_cons.mpr hc.symm
      · exact mem_insertMark.mpr hc.symm
    rcases h with hback | hmem
    · exact Or.inl (hstep (Or.inl hback))
    · rcases List.mem_cons.mp hmem with hd | hrest
      · exact Or.inl (hstep (Or.inr hd))
      · exact Or.inr hrest

private theorem mem_decompose {c : Char} (hc : c.toNat < 0xC0) {cs : List Char} (h : c ∈ cs) :
    c ∈ decompose cs := by
  rw [decompose, List.mem_reverse]
  apply mem_foldl_insertMark
  refine Or.inr (List.mem_flatMap.mpr ⟨c, h, ?_⟩)
  rw [decomposeTo_of_lt hc]
  exact List.mem_singleton_self c

private theorem compose?_of_lt {a b : Char} (h : a.toNat < 0x3C ∨ b.toNat < 0x3C) :
    compose? a b = none := by
  have hnone : primaryComposite? a b = none := primaryComposite?_of_lt (by omega)
  simp only [compose?]
  rw [if_neg (by omega), if_neg (by omega), hnone]

private theorem Cluster.mem_text {k : Cluster} {c : Char} :
    c ∈ k.text ↔ c ∈ k.marks ∨ k.base = some c ∨ c ∈ k.done := by
  simp [Cluster.text]

/-- A character joins the base, begins a cluster, or is kept as a mark. -/
private theorem Cluster.add_cases (k : Cluster) (c : Char) :
    (∃ b d, k.base = some b ∧ compose? b c = some d ∧ k.add c = { k with base := some d }) ∨
    k.add c = { done := k.text, base := some c, marks := [] } ∨
    k.add c = { k with marks := c :: k.marks } := by
  simp only [Cluster.add]
  split
  · next d hjoined =>
    cases hbase : k.base with
    | none => simp [hbase] at hjoined
    | some b =>
      simp only [hbase, Option.ite_none_left_eq_some] at hjoined
      exact Or.inl ⟨b, d, rfl, hjoined.2, rfl⟩
  · split
    · exact Or.inr (Or.inl rfl)
    · exact Or.inr (Or.inr rfl)

/-- A character below `<` takes no part in composition: it stays where it is, and it is
there once it has been added. -/
private theorem Cluster.mem_text_add {k : Cluster} {c d : Char} (hc : c.toNat < 0x3C)
    (h : c ∈ k.text ∨ c = d) : c ∈ (k.add d).text := by
  rw [Cluster.mem_text] at h
  rcases Cluster.add_cases k d with ⟨b, e, hbase, hjoined, hadd⟩ | hadd | hadd
  · rw [hadd, Cluster.mem_text]
    rcases h with (hmark | hsame | hdone) | rfl
    · exact Or.inl hmark
    · obtain rfl : b = c := Option.some.inj (hbase.symm.trans hsame)
      rw [compose?_of_lt (Or.inl hc)] at hjoined
      cases hjoined
    · exact Or.inr (Or.inr hdone)
    · rw [compose?_of_lt (Or.inr hc)] at hjoined
      cases hjoined
  · rw [hadd, Cluster.mem_text]
    rcases h with htext | rfl
    · exact Or.inr (Or.inr (Cluster.mem_text.mpr htext))
    · exact Or.inr (Or.inl rfl)
  · rw [hadd, Cluster.mem_text]
    rcases h with (hmark | hbase | hdone) | rfl
    · exact Or.inl (List.mem_cons_of_mem _ hmark)
    · exact Or.inr (Or.inl hbase)
    · exact Or.inr (Or.inr hdone)
    · exact Or.inl List.mem_cons_self

private theorem Cluster.mem_text_foldl {c : Char} (hc : c.toNat < 0x3C) {cs : List Char}
    {k : Cluster} (h : c ∈ k.text ∨ c ∈ cs) : c ∈ (cs.foldl Cluster.add k).text := by
  induction cs generalizing k with
  | nil => simpa using h
  | cons d rest ih =>
    apply ih
    rcases h with htext | hmem
    · exact Or.inl (mem_text_add hc (Or.inl htext))
    · rcases List.mem_cons.mp hmem with hd | hrest
      · exact Or.inl (mem_text_add hc (Or.inr hd))
      · exact Or.inr hrest

theorem mem_compose {c : Char} (hc : c.toNat < 0x3C) {cs : List Char} (h : c ∈ cs) :
    c ∈ compose cs := by
  rw [compose]
  split
  · exact h
  · rw [List.mem_reverse]
    exact Cluster.mem_text_foldl hc (Or.inr (mem_decompose (by omega) h))

end ServerLogin.Text
