import Mathlib.Data.List.Basic
import ServerLogin.Proofs.Number.Integer
import ServerLogin.Proofs.Url.Authority
import ServerLogin.Proofs.Url.SchemeCase

/-!
Ports that are written in a URL.  `SpellsPort` says it of the text: a scheme, the slashes
its kind asks for, and an authority with a port.  A URL that is read has the port that its
text spells; a `file` URL has none, since a host of its own with a colon is refused.
-/

namespace ServerLogin.Url

open ServerLogin.Text ServerLogin.Number

/-- The slashes between the colon of a scheme and the authority: two of them, but any
number in a web address.  Only a plain scheme tells slashes from backslashes. -/
def Introduces : Kind → List Char → Prop
  | .web, slashes => ∀ c ∈ slashes, c = '/' ∨ c = '\\'
  | .file, slashes => slashes.length = 2 ∧ ∀ c ∈ slashes, c = '/' ∨ c = '\\'
  | .plain, slashes => slashes = ['/', '/']

/-- The text behind the colon of a scheme spells a port: the slashes that the kind of the
scheme asks for are followed by an authority with the port. -/
def PortBehind (kind : Kind) (rest : List Char) (port : UInt16) : Prop :=
  ∃ (slashes : List Char) (a : PortedAuthority kind),
    Introduces kind slashes ∧ rest = slashes ++ a.text ∧ a.port = port

/-- A text spells a port: what counts of it is a scheme, its colon, and a text behind them
that spells the port. -/
def SpellsPort (s : String) (port : UInt16) : Prop :=
  ∃ name rest, ':' ∉ name ∧ significant s = name ++ ':' :: rest ∧
    PortBehind (kindOf (String.ofList (name.map lowerAscii))) rest port

theorem exists_name_of_splitScheme? {cs rest : List Char} {scheme : String}
    (h : splitScheme? cs = some (scheme, rest)) :
    ∃ name, ':' ∉ name ∧ cs = name ++ ':' :: rest ∧
      scheme = String.ofList (name.map lowerAscii) := by
  simp only [splitScheme?] at h
  split at h
  · next c behind hhead hdrop =>
    split at h
    · cases h
      refine ⟨cs.takeWhile isSchemeChar, ?_, ?_, rfl⟩
      · intro hcolon
        exact absurd (List.mem_takeWhile_imp hcolon) (by decide)
      · rw [← hdrop]
        exact (List.prefix_iff_eq_append.mp (List.takeWhile_prefix _)).symm
    · cases h
  · cases h

theorem spellsPort_iff {s : String} {scheme : String} {rest : List Char} {port : UInt16}
    (h : splitScheme? (significant s) = some (scheme, rest)) :
    SpellsPort s port ↔ PortBehind (kindOf scheme) rest port := by
  obtain ⟨name, hcolon, htext, rfl⟩ := exists_name_of_splitScheme? h
  constructor
  · rintro ⟨other, behind, hother, hsame, hport⟩
    have hfront : ∀ front : List Char, ':' ∉ front → ∀ c ∈ front, (c != ':') = true := by
      intro front hfront c hc
      rw [bne_iff_ne]
      rintro rfl
      exact hfront hc
    obtain ⟨rfl, rfl⟩ := run_append_inj (p := (· != ':')) (hfront name hcolon) rfl
      (hfront other hother) (htext.symm.trans hsame)
    exact hport
  · intro hport
    exact ⟨name, rest, hcolon, htext, hport⟩

/-- The slashes in front of an authority are all that stand there. -/
theorem PortedAuthority.dropWhile_text (a : PortedAuthority .web) (slashes : List Char)
    (h : ∀ c ∈ slashes, c = '/' ∨ c = '\\') :
    (slashes ++ a.text).dropWhile (fun c => c == '/' || c == '\\') = a.text := by
  have hslashes : ∀ c ∈ slashes, (c == '/' || c == '\\') = true := by
    intro c hc
    simpa using h c hc
  obtain ⟨front, htext, hunended⟩ := a.exists_front
  rw [List.dropWhile_append_of_pos hslashes, htext]
  cases front with
  | nil => rfl
  | cons c more =>
    have hc : endsAuthority .web c = false := hunended c List.mem_cons_self
    have hslash : (c == '/' || c == '\\') = false := by
      simp only [endsAuthority, Bool.or_eq_false_iff] at hc
      rw [hc.1.1.1, Bool.false_or]
      exact hc.2
    rw [List.cons_append, List.dropWhile_cons, hslash]
    rfl

theorem portBehind_web {rest : List Char} {port : UInt16} :
    PortBehind .web rest port ↔ ∃ a : PortedAuthority .web,
      a.text = rest.dropWhile (fun c => c == '/' || c == '\\') ∧ a.port = port := by
  constructor
  · rintro ⟨slashes, a, hslashes, rfl, hport⟩
    exact ⟨a, (a.dropWhile_text slashes hslashes).symm, hport⟩
  · rintro ⟨a, htext, hport⟩
    refine ⟨rest.takeWhile (fun c => c == '/' || c == '\\'), a, ?_, ?_, hport⟩
    · intro c hc
      simpa using List.mem_takeWhile_imp hc
    · rw [htext, List.takeWhile_append_dropWhile]

/-- In front of what ends a port, a `file` authority ends, too. -/
theorem PortedAuthority.takeWhile_text (a : PortedAuthority .file) :
    ∃ front, a.text.takeWhile (!endsAuthority .file ·) = front ++ ':' :: a.digits := by
  obtain ⟨front, htext, hunended⟩ := a.exists_front
  have hinside : ∀ c ∈ front ++ ':' :: a.digits, (!endsAuthority .file c) = true := by
    intro c hc
    rcases List.mem_append.mp hc with hfront | hrest
    · rw [hunended c hfront]
      rfl
    · rcases List.mem_cons.mp hrest with rfl | hdigit
      · rfl
      · have hother : ∀ {d : Char}, d.isDigit = false → c ≠ d := ne_of_isDigit (a.decimal c hdigit)
        simp [endsAuthority, hother]
  have hended : ∀ c ∈ a.rest.head?, (!endsAuthority .file c) = false := by
    intro c hc
    rcases a.ended c hc with rfl | rfl | rfl | rfl <;> rfl
  have hwhole : a.text = (front ++ ':' :: a.digits) ++ a.rest := by simp [htext]
  refine ⟨front, ?_⟩
  rw [hwhole]
  exact takeWhile_append_of_head hinside hended

/-- A drive ends in a colon or a bar. -/
theorem isDrive_eq_false {cs : List Char} {c : Char} (hlast : cs.getLast? = some c)
    (hcolon : c ≠ ':') (hbar : c ≠ '|') : isDrive cs = false := by
  unfold isDrive
  split
  · next first last =>
    have hsame : last = c := Option.some.inj hlast
    simp [hsame, hcolon, hbar]
  · rfl

/-- No `file` URL is read from a text that spells a port: the name of its host would have
a colon. -/
theorem readFile_of_portBehind {rest : List Char} {port : UInt16}
    (h : PortBehind .file rest port) : ∃ fault, readFile rest = .error fault := by
  obtain ⟨slashes, a, ⟨hlength, hslashes⟩, rfl, -⟩ := h
  obtain ⟨x, y, rfl⟩ : ∃ x y, slashes = [x, y] := List.length_eq_two.mp hlength
  have hboth : ((x == '/' || x == '\\') && (y == '/' || y == '\\')) = true := by
    simpa using hslashes
  obtain ⟨front, hname⟩ := a.takeWhile_text
  have hlast : (front ++ ':' :: a.digits).getLast? = some (a.digits.getLast a.written) := by
    rw [List.getLast?_append_cons, List.getLast?_cons, List.getLast?_eq_some_getLast a.written]
    rfl
  have hdigit := a.decimal _ (List.getLast_mem a.written)
  have hdrive := isDrive_eq_false hlast (ne_of_isDigit hdigit rfl) (ne_of_isDigit hdigit rfl)
  have hnonempty : (front ++ ':' :: a.digits).isEmpty = false := by simp
  obtain ⟨fault, hread⟩ : ∃ fault, Host.read (front ++ ':' :: a.digits) = .error fault := by
    apply Host.read_colon
    · simp
    · rw [hlast]
      intro hclose
      exact ne_of_isDigit hdigit rfl (Option.some.inj hclose)
  refine ⟨fault, ?_⟩
  simp only [readFile, List.cons_append, List.nil_append, hboth, if_true, hname, hnonempty,
    hdrive, Bool.or_self, Bool.false_eq_true, if_false, hread]

theorem writtenPort_of_readFile {cs : List Char} {url : Url} (h : readFile cs = .ok url) :
    url.writtenPort = none := by
  simp only [readFile] at h
  repeat' split at h
  all_goals first
    | cases h; rfl
    | cases h

/-- A URL has the port that its text spells. -/
theorem writtenPort_eq_some_iff {s : String} {url : Url} (h : read s = .ok url)
    (port : UInt16) : url.writtenPort = some port ↔ SpellsPort s port := by
  obtain ⟨rest, hsplit⟩ := scheme_of_read h
  rw [spellsPort_iff hsplit]
  simp only [read, hsplit] at h
  -- the kind of the scheme decides how the text behind it is read, and what spells a port there
  cases hkind : kindOf url.scheme with
  | web =>
    rw [hkind] at h
    rw [readAuthority_port_iff h, portBehind_web]
  | file =>
    rw [hkind] at h
    dsimp only at h
    constructor
    · intro hport
      rw [writtenPort_of_readFile h] at hport
      cases hport
    · intro hport
      obtain ⟨fault, hfault⟩ := readFile_of_portBehind hport
      rw [h] at hfault
      cases hfault
  | plain =>
    rw [hkind] at h
    dsimp only at h
    split at h
    · next authority =>
      rw [readAuthority_port_iff h]
      constructor
      · rintro ⟨a, rfl, hport⟩
        exact ⟨['/', '/'], a, rfl, rfl, hport⟩
      · rintro ⟨_, a, rfl, hrest, hport⟩
        simp only [List.cons_append, List.nil_append, List.cons.injEq, true_and] at hrest
        exact ⟨a, hrest.symm, hport⟩
    · next hslashes =>
      have hnone : url.writtenPort = none := by rw [← Except.ok.inj h]
      constructor
      · intro hport
        rw [hnone] at hport
        cases hport
      · rintro ⟨_, a, rfl, rfl, -⟩
        exact absurd rfl (hslashes a.text)

end ServerLogin.Url
