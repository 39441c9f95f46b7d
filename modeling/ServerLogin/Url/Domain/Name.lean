import ServerLogin.Text.Direction
import ServerLogin.Text.Joining
import ServerLogin.Text.Normal
import ServerLogin.Url.Domain.Mapping
import ServerLogin.Url.Domain.Punycode

/-!
Domain names.  `asciiDomain?` reads each character as `domainReading?` says,
composes the result, checks every label, and writes a label with characters
outside ASCII in punycode behind `xn--`.
-/

namespace ServerLogin.Url

open ServerLogin.Text

/-- Characters that no domain name may hold: they would end the host or change
its meaning when the URL is read again. -/
def isForbiddenInDomain (c : Char) : Bool :=
  c.toNat ≤ 0x20 || c.toNat == 0x7F || "%#/:<>?@[\\]^|".toList.contains c

/-- Whether the joiner behind `before` (nearest character first) and in front of
`after` stands where a script needs it. -/
private def joinerFits (joiner : Char) (before after : List Char) : Bool :=
  before.head?.any isVirama ||
    (joiner.toNat == 0x200C
      && (before.dropWhile (joining · == .transparent)).head?.any
        (fun c => joining c == .left || joining c == .both)
      && (after.dropWhile (joining · == .transparent)).head?.any
        (fun c => joining c == .right || joining c == .both))

/-- Whether all joiners of a label fit; `before` holds what was read, reversed. -/
private def joinersFit (before : List Char) : List Char → Bool
  | [] => true
  | c :: after =>
    ((c.toNat != 0x200C && c.toNat != 0x200D) || joinerFits c before after)
      && joinersFit (c :: before) after

/-- Whether a label mixes its writing directions legibly, as a name that holds
right-to-left characters must. -/
private def directionsFit (label : List Char) : Bool :=
  let directions := label.map direction
  let ending := (directions.reverse.dropWhile (· == .nonspacing)).head?
  match directions with
  | [] => true
  | .leftToRight :: _ =>
    directions.all (fun d => d == .leftToRight || d == .europeanNumber || d == .neutral
      || d == .nonspacing)
      && ending.any (fun d => d == .leftToRight || d == .europeanNumber)
  | .rightToLeft :: _ | .arabicLetter :: _ =>
    directions.all (fun d => d != .leftToRight && d != .other)
      && ending.any (fun d => d != .neutral)
      && !(directions.contains .europeanNumber && directions.contains .arabicNumber)
  | _ => false

/-- Whether a character makes the whole name subject to `directionsFit`. -/
private def isRightToLeft (c : Char) : Bool :=
  128 ≤ c.toNat && match direction c with
    | .rightToLeft | .arabicLetter | .arabicNumber => true
    | _ => false

/-- A label in the form for reading and in the form for the wire. -/
structure Label where
  shown : List Char
  wire : List Char

/-- Whether a label that is not plain ASCII is well formed. -/
private def isWellFormed (label : List Char) : Bool :=
  !label.head?.any isMark && joinersFit [] label

/-- Read the punycode behind `xn--`.  It has to stand for a label outside ASCII
that is already in the form in which names are compared. -/
def ofPunycode? (wire digits : List Char) : Option Label :=
  if 2000 < digits.length then none else
  match Punycode.decode? digits with
  | none => none
  | some shown =>
    if shown.all (·.toNat < 128) then none
    else if shown.any (fun c => domainReading? c != some [c]) then none
    else if compose shown != shown || !isWellFormed shown then none
    else some ⟨shown, wire⟩

/-- Read one label, its characters already mapped and composed. -/
def label? (cs : List Char) : Option Label :=
  if cs.any isForbiddenInDomain then none
  else match cs with
    | 'x' :: 'n' :: '-' :: '-' :: digits =>
      if digits.all (·.toNat < 128) then ofPunycode? cs digits else none
    | cs =>
      if cs.all (·.toNat < 128) then some ⟨cs, cs⟩
      else if 1000 < cs.length || !isWellFormed cs then none
      else some ⟨cs, "xn--".toList ++ Punycode.encode cs⟩

/-- The ASCII form of a domain name. -/
def asciiDomain? (cs : List Char) : Option (List Char) := do
  let readings ← cs.mapM domainReading?
  let labels ← ((compose readings.flatten).splitOnP (· == '.')).mapM label?
  let mixed := labels.any (·.shown.any isRightToLeft)
  if mixed && !labels.all (directionsFit ·.shown) then none
  else some (List.intercalate ['.'] (labels.map (·.wire)))

private theorem mapM_eq_none {α β : Type} {f : α → Option β} {a : α} {as : List α}
    (hmem : a ∈ as) (h : f a = none) : as.mapM f = none := by
  induction as with
  | nil => cases hmem
  | cons b rest ih =>
    rw [List.mapM_cons]
    rcases List.mem_cons.mp hmem with rfl | hrest
    · rw [h]
      rfl
    · rw [ih hrest]
      cases f b <;> rfl

private theorem mem_flatten_of_mapM {α β : Type} {f : α → Option (List β)} {a : α} {b : β}
    {as : List α} {bss : List (List β)} (h : as.mapM f = some bss) (hmem : a ∈ as)
    (hread : f a = some [b]) : b ∈ bss.flatten := by
  induction as generalizing bss with
  | nil => cases hmem
  | cons c rest ih =>
    simp only [List.mapM_cons, Option.bind_eq_bind, Option.bind_eq_some_iff, Option.pure_def,
      Option.some.injEq] at h
    obtain ⟨bs, hbs, more, hmore, rfl⟩ := h
    rw [List.flatten_cons, List.mem_append]
    rcases List.mem_cons.mp hmem with rfl | hrest
    · left
      obtain rfl : bs = [b] := Option.some.inj (hbs.symm.trans hread)
      exact List.mem_singleton_self b
    · exact Or.inr (ih hmore hrest)

private theorem exists_mem_splitOnP {α : Type} {p : α → Bool} {a : α} {as : List α}
    (hmem : a ∈ as) (h : p a = false) : ∃ part ∈ as.splitOnP p, a ∈ part := by
  induction as with
  | nil => cases hmem
  | cons b rest ih =>
    rw [List.splitOnP_cons_eq_if_modifyHead]
    rcases List.mem_cons.mp hmem with rfl | hrest
    · rw [if_neg (by simp [h])]
      obtain ⟨part, parts, hparts⟩ := List.exists_cons_of_ne_nil (List.splitOnP_ne_nil p rest)
      rw [hparts]
      exact ⟨a :: part, List.mem_cons_self, List.mem_cons_self⟩
    · obtain ⟨part, hpart, ha⟩ := ih hrest
      split
      · exact ⟨part, List.mem_cons_of_mem _ hpart, ha⟩
      · cases hparts : rest.splitOnP p with
        | nil => exact absurd hparts (List.splitOnP_ne_nil p rest)
        | cons first parts =>
          rw [hparts] at hpart
          rcases List.mem_cons.mp hpart with rfl | hmore
          · exact ⟨b :: part, List.mem_cons_self, List.mem_cons_of_mem _ ha⟩
          · exact ⟨part, List.mem_cons_of_mem _ hmore, ha⟩

/-- A forbidden character below `<` makes a domain name be refused: it is read as itself
and is no part of a composite. -/
theorem asciiDomain?_eq_none {c : Char} {cs : List Char} (hlow : c.toNat < 0x3C)
    (hforbidden : isForbiddenInDomain c = true) (hmem : c ∈ cs) : asciiDomain? cs = none := by
  have hread : domainReading? c = some [c] := by
    have hsmall : ¬('A' ≤ c ∧ c ≤ 'Z') := by
      rintro ⟨hcap, _⟩
      have : 65 ≤ c.toNat := hcap
      omega
    rw [domainReading?, if_pos (by omega), lowerAscii, if_neg hsmall]
  have hpoint : (c == '.') = false := by
    rw [beq_eq_false_iff_ne]
    rintro rfl
    exact absurd hforbidden (by decide)
  have hlabel : ∀ label : List Char, c ∈ label → label? label = none := by
    intro label hc
    rw [label?.eq_def, if_pos (List.any_eq_true.mpr ⟨c, hc, hforbidden⟩)]
  rw [asciiDomain?]
  cases hreadings : cs.mapM domainReading? with
  | none => rfl
  | some readings =>
    have hcomposed := mem_compose hlow (mem_flatten_of_mapM hreadings hmem hread)
    obtain ⟨label, hsplit, hc⟩ := exists_mem_splitOnP (p := (· == '.')) hcomposed hpoint
    have hnone := mapM_eq_none hsplit (hlabel label hc)
    simp only [Option.bind_eq_bind, Option.bind_some, hnone, Option.bind_none]

end ServerLogin.Url
