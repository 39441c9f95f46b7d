import Mathlib.Data.List.TakeWhile
import ServerLogin.Proofs.Text.Run
import ServerLogin.Url.Basic

/-!
Authorities that spell a port.  `PortedAuthority` is the grammar: user information, a host
name, a colon, digits, and what follows the authority.  Reading an authority gives a port
exactly when it is spelled that way.
-/

namespace ServerLogin.Url

open ServerLogin.Text

/-- A host name whose colons all stand in brackets. -/
inductive Enclosed : List Char → Prop
  | nil : Enclosed []
  | char {c : Char} {rest : List Char} : c ≠ ':' → c ≠ '[' → Enclosed rest →
      Enclosed (c :: rest)
  | group {inner rest : List Char} : ']' ∉ inner → Enclosed rest →
      Enclosed ('[' :: (inner ++ ']' :: rest))

/-- User information, which goes up to the last `@` of an authority, or none. -/
structure LeadingUser (kind : Kind) (user rest : List Char) : Prop where
  marked : user = [] ∨ user.getLast? = some '@'
  unended : ∀ c ∈ user, endsAuthority kind c = false
  last : '@' ∉ rest.takeWhile (!endsAuthority kind ·)

/-- What may follow the digits of a port. -/
def EndsPort (rest : List Char) : Prop :=
  ∀ c ∈ rest.head?, c = '/' ∨ c = '\\' ∨ c = '?' ∨ c = '#'

/-- An authority with a port, and what follows it. -/
structure PortedAuthority (kind : Kind) where
  user : List Char
  name : List Char
  digits : List Char
  rest : List Char
  leading : LeadingUser kind user (name ++ ':' :: (digits ++ rest))
  enclosed : Enclosed name
  unended : ∀ c ∈ name, endsAuthority kind c = false
  written : digits ≠ []
  decimal : ∀ c ∈ digits, c.isDigit = true
  small : Nat.ofDigitChars 10 digits 0 ≤ 65535
  ended : EndsPort rest

namespace PortedAuthority

variable {kind : Kind} (a : PortedAuthority kind)

/-- The text behind the user information. -/
def address : List Char := a.name ++ ':' :: (a.digits ++ a.rest)

def text : List Char := a.user ++ a.address

def port : UInt16 := UInt16.ofNat (Nat.ofDigitChars 10 a.digits 0)

/-- In front of the colon of the port stands nothing that would end the authority. -/
theorem exists_front : ∃ front, a.text = front ++ ':' :: (a.digits ++ a.rest) ∧
    ∀ c ∈ front, endsAuthority kind c = false := by
  refine ⟨a.user ++ a.name, ?_, ?_⟩
  · rw [text, address, List.append_assoc]
  · intro c hc
    rcases List.mem_append.mp hc with huser | hname
    · exact a.leading.unended c huser
    · exact a.unended c hname

end PortedAuthority

section User

variable {kind : Kind}

/-- Every text has a place where the user information ends. -/
theorem exists_leadingUser (kind : Kind) (cs : List Char) :
    ∃ user rest, cs = user ++ rest ∧ LeadingUser kind user rest := by
  let authority := cs.takeWhile (!endsAuthority kind ·)
  let beyond := cs.dropWhile (!endsAuthority kind ·)
  have hcs : cs = authority ++ beyond := List.takeWhile_append_dropWhile.symm
  have hunended : ∀ c ∈ authority, (!endsAuthority kind c) = true := by
    intro c hc
    exact List.mem_takeWhile_imp (p := (!endsAuthority kind ·)) hc
  have hbeyond : beyond.takeWhile (!endsAuthority kind ·) = [] := takeWhile_dropWhile _ _
  by_cases hmark : '@' ∈ authority
  · obtain ⟨after, before, hsplit, hlast⟩ :=
      List.eq_append_cons_of_mem (List.mem_reverse.mpr hmark)
    have hauthority : authority = (before.reverse ++ ['@']) ++ after.reverse := by
      rw [← List.reverse_reverse authority, hsplit]
      simp
    refine ⟨before.reverse ++ ['@'], after.reverse ++ beyond, ?_, ?_, ?_, ?_⟩
    · rw [hcs, hauthority, List.append_assoc]
    · right
      exact List.getLast?_concat
    · intro c hc
      simpa using hunended c (hauthority ▸ List.mem_append_left _ hc)
    · rw [List.takeWhile_append_of_pos, hbeyond, List.append_nil, List.mem_reverse]
      · exact hlast
      · intro c hc
        exact hunended c (hauthority ▸ List.mem_append_right _ hc)
  · exact ⟨[], cs, rfl, Or.inl rfl, by simp, hmark⟩

/-- User information is passed over, unless nothing stands behind it. -/
theorem skipUser_append {user rest : List Char} (h : LeadingUser kind user rest) :
    (∃ named, skipUser kind (user ++ rest) = .ok (named, rest)) ∨
      rest.takeWhile (!endsAuthority kind ·) = [] ∧
        skipUser kind (user ++ rest) = .error .emptyHost := by
  have hunended : ∀ c ∈ user, (!endsAuthority kind c) = true := by
    intro c hc
    rw [h.unended c hc]
    rfl
  have hwhole := List.takeWhile_append_dropWhile (p := (!endsAuthority kind ·)) (l := rest)
  have hlast := h.last
  unfold skipUser
  rw [List.takeWhile_append_of_pos hunended, List.dropWhile_append_of_pos hunended]
  generalize rest.takeWhile (!endsAuthority kind ·) = authority at hwhole hlast
  generalize rest.dropWhile (!endsAuthority kind ·) = beyond at hwhole
  rcases h.marked with rfl | hmarked
  · left
    refine ⟨false, ?_⟩
    simp [hlast]
  · obtain ⟨before, rfl⟩ := List.getLast?_eq_some_iff.mp hmarked
    have hafter : (((before ++ ['@'] ++ authority).reverse.takeWhile (· ≠ '@')).reverse)
        = authority := by
      have hreverse : (before ++ ['@'] ++ authority).reverse
          = authority.reverse ++ '@' :: before.reverse := by simp
      rw [hreverse, takeWhile_run _ (by decide), List.reverse_reverse]
      intro c hc
      rw [decide_eq_true_eq]
      rintro rfl
      exact hlast (List.mem_reverse.mp hc)
    have hbefore : (before ++ ['@'] ++ authority).take
        ((before ++ ['@'] ++ authority).length - authority.length - 1) = before := by
      rw [List.append_assoc]
      apply List.take_left'
      simp
      omega
    have hcontains : (before ++ ['@'] ++ authority).contains '@' = true := by simp
    simp only [hafter, hbefore, hwhole, hcontains, Bool.not_true, Bool.false_eq_true, if_false]
    split
    · split
      · next hnothing =>
        right
        simp only [Bool.and_eq_true, List.isEmpty_iff] at hnothing
        exact ⟨hnothing.1, rfl⟩
      · exact Or.inl ⟨false, rfl⟩
    · exact Or.inl ⟨_, rfl⟩

end User

section Name

variable {kind : Kind}

/-- A group in brackets is scanned up to its closing bracket. -/
theorem splitHost_group {inner : List Char} (hinner : ']' ∉ inner)
    (hunended : ∀ c ∈ inner, endsAuthority kind c = false) (rest : List Char) :
    splitHost kind true (inner ++ ']' :: rest) =
      (inner ++ ']' :: (splitHost kind false rest).1, (splitHost kind false rest).2) := by
  induction inner with
  | nil => simp [splitHost, endsAuthority]
  | cons c more ih =>
    rw [List.mem_cons, not_or] at hinner
    have hc : endsAuthority kind c = false := hunended c List.mem_cons_self
    have hmore := ih hinner.2 fun d hd => hunended d (List.mem_cons_of_mem c hd)
    have hopen : (c == '[' || (true && c != ']')) = true := by simp [Ne.symm hinner.1]
    rw [List.cons_append, splitHost, hc, hopen]
    simp only [Bool.not_true, Bool.and_false, Bool.or_false, Bool.false_eq_true, if_false, hmore,
      List.cons_append]

/-- The scan for the end of a host name stops at the colon behind it. -/
theorem splitHost_append {name : List Char} (henclosed : Enclosed name)
    (hunended : ∀ c ∈ name, endsAuthority kind c = false) (rest : List Char) :
    splitHost kind false (name ++ ':' :: rest) = (name, ':' :: rest) := by
  induction henclosed with
  | nil => simp [splitHost]
  | @char c more hcolon hopen _ ih =>
    have hc : endsAuthority kind c = false := hunended c List.mem_cons_self
    have hmore := ih fun d hd => hunended d (List.mem_cons_of_mem c hd)
    have hplain : (c == '[') = false := beq_eq_false_iff_ne.mpr hopen
    simp [splitHost, hc, hcolon, hplain, hmore]
  | @group inner more hinner _ ih =>
    have hmore := ih fun d hd => hunended d (by simp [hd])
    have hgroup := splitHost_group hinner (fun d hd => hunended d (by simp [hd]))
      (more ++ ':' :: rest)
    have hbracket : endsAuthority kind '[' = false := hunended '[' List.mem_cons_self
    rw [hmore] at hgroup
    simp [splitHost, hbracket, hgroup]

/-- What is scanned before a colon is a host name as it should be; when the scan starts
within brackets, that holds behind the closing one. -/
theorem enclosed_of_splitHost {bracketed : Bool} {cs name rest : List Char}
    (h : splitHost kind bracketed cs = (name, ':' :: rest)) :
    cs = name ++ ':' :: rest ∧ (∀ c ∈ name, endsAuthority kind c = false) ∧
      (bracketed = false → Enclosed name) ∧
      (bracketed = true → ∃ inner more, name = inner ++ ']' :: more ∧ ']' ∉ inner ∧
        Enclosed more) := by
  -- the scan carries whether it is within brackets, and so does the induction
  induction cs generalizing bracketed name with
  | nil => simp [splitHost] at h
  | cons c more ih =>
    rw [splitHost] at h
    split at h
    · next hstop =>
      obtain ⟨rfl, hcons⟩ := Prod.mk.inj h
      obtain ⟨rfl, rfl⟩ := List.cons.inj hcons
      refine ⟨rfl, by simp, fun _ => .nil, ?_⟩
      rintro rfl
      simp [endsAuthority] at hstop
    · next hstop =>
      simp only [Bool.or_eq_true, Bool.and_eq_true, beq_iff_eq, Bool.not_eq_true', not_or,
        not_and, Bool.not_eq_true] at hstop
      obtain ⟨hcolon, hc⟩ := hstop
      generalize hscan : splitHost kind (c == '[' || (bracketed && c != ']')) more = scanned at h
      obtain ⟨front, back⟩ := scanned
      obtain ⟨rfl, rfl⟩ := Prod.mk.inj h
      obtain ⟨rfl, hunended, houtside, hinside⟩ := ih hscan
      refine ⟨rfl, ?_, ?_, ?_⟩
      · intro d hd
        rcases List.mem_cons.mp hd with rfl | hd
        · exact hc
        · exact hunended d hd
      · rintro rfl
        by_cases hopen : c = '['
        · subst hopen
          obtain ⟨inner, tail, rfl, hinner, htail⟩ := hinside rfl
          exact .group hinner htail
        · refine .char (fun hc => absurd rfl (hcolon hc)) hopen (houtside ?_)
          simp [hopen]
      · rintro rfl
        by_cases hclose : c = ']'
        · subst hclose
          exact ⟨[], _, rfl, by simp, houtside rfl⟩
        · obtain ⟨inner, tail, rfl, hinner, htail⟩ := hinside (by simp [hclose])
          refine ⟨c :: inner, tail, rfl, ?_, htail⟩
          simp [hinner, Ne.symm hclose]

end Name

section Port

theorem readPort_append {digits rest : List Char} (hwritten : digits ≠ [])
    (hdecimal : ∀ c ∈ digits, c.isDigit = true) (hsmall : Nat.ofDigitChars 10 digits 0 ≤ 65535)
    (hended : EndsPort rest) :
    readPort (digits ++ rest) = .ok (some (UInt16.ofNat (Nat.ofDigitChars 10 digits 0))) := by
  have hother : ∀ c ∈ rest.head?, c.isDigit = false := by
    intro c hc
    rcases hended c hc with rfl | rfl | rfl | rfl <;> rfl
  have hend : (rest.head?.any fun c => c ≠ '/' && c ≠ '\\' && c ≠ '?' && c ≠ '#') = false := by
    rw [Option.any_eq_false]
    intro c hc
    rcases hended c hc with rfl | rfl | rfl | rfl <;> decide
  have hdigits := takeWhile_append_of_head hdecimal hother
  have hrest := dropWhile_append_of_head hdecimal hother
  simp only [readPort, hdigits, hrest, hend, Bool.false_eq_true, if_false,
    if_neg (Nat.not_lt.mpr hsmall), List.isEmpty_iff, hwritten]

/-- A port that is read is spelled by digits. -/
theorem readPort_eq_some {cs : List Char} {port : UInt16} (h : readPort cs = .ok (some port)) :
    ∃ digits rest, cs = digits ++ rest ∧ digits ≠ [] ∧ (∀ c ∈ digits, c.isDigit = true) ∧
      Nat.ofDigitChars 10 digits 0 ≤ 65535 ∧ EndsPort rest ∧
      port = UInt16.ofNat (Nat.ofDigitChars 10 digits 0) := by
  simp only [readPort] at h
  split at h
  · cases h
  · next hsmall =>
    split at h
    · cases h
    · next hend =>
      split at h
      · cases h
      · next hwritten =>
        refine ⟨cs.takeWhile Char.isDigit, cs.dropWhile Char.isDigit,
          List.takeWhile_append_dropWhile.symm, ?_, ?_, Nat.not_lt.mp hsmall, ?_, ?_⟩
        · intro hnil
          exact hwritten (List.isEmpty_iff.mpr hnil)
        · intro c hc
          exact List.mem_takeWhile_imp hc
        · intro c hc
          by_contra hother
          apply hend
          rw [Option.any_eq_true]
          refine ⟨c, hc, ?_⟩
          simpa [and_assoc] using hother
        · exact (Option.some.inj (Except.ok.inj h)).symm

end Port

section Authority

variable {scheme : String} {kind : Kind} {cs : List Char} {url : Url}

/-- The port of an authority is what is read behind the colon after the host name. -/
theorem writtenPort_of_readAuthority (h : readAuthority scheme kind cs = .ok url) :
    ∃ named more name rest, skipUser kind cs = .ok (named, more) ∧
      splitHost kind false more = (name, rest) ∧
      ((∃ digits, rest = ':' :: digits ∧ readPort digits = .ok url.writtenPort) ∨
        (∀ digits, rest ≠ ':' :: digits) ∧ url.writtenPort = none) := by
  simp only [readAuthority, bind, Except.bind, pure, Except.pure, throw, throwThe,
    MonadExceptOf.throw] at h
  split at h
  · cases h
  · next skipped hskip =>
    obtain ⟨named, more⟩ := skipped
    refine ⟨named, more, _, _, hskip, rfl, ?_⟩
    repeat' split at h
    all_goals cases h
    all_goals first
      | exact Or.inl ⟨_, by assumption, by assumption⟩
      | exact Or.inr ⟨by assumption, rfl⟩

theorem PortedAuthority.skipUser_text (a : PortedAuthority kind) :
    ∃ named, skipUser kind a.text = .ok (named, a.address) := by
  rcases skipUser_append a.leading with hok | ⟨hempty, _⟩
  · exact hok
  · have hname : ∀ c ∈ a.name, (!endsAuthority kind c) = true := by
      intro c hc
      rw [a.unended c hc]
      rfl
    rw [List.takeWhile_append_of_pos hname, List.append_eq_nil_iff] at hempty
    simp [endsAuthority] at hempty

/-- An authority is read with a port exactly when it spells one. -/
theorem readAuthority_port_iff (h : readAuthority scheme kind cs = .ok url) (port : UInt16) :
    url.writtenPort = some port ↔ ∃ a : PortedAuthority kind, a.text = cs ∧ a.port = port := by
  obtain ⟨named, more, name, rest, hskip, hsplit, hport⟩ := writtenPort_of_readAuthority h
  constructor
  · intro hwritten
    obtain ⟨user, behind, rfl, hleading⟩ := exists_leadingUser kind cs
    obtain rfl : behind = more := by
      rcases skipUser_append hleading with ⟨named, hok⟩ | ⟨_, herror⟩
      · rw [hskip] at hok
        cases hok
        rfl
      · rw [hskip] at herror
        cases herror
    rw [hwritten] at hport
    obtain ⟨behind, rfl, hread⟩ : ∃ digits, rest = ':' :: digits ∧
        readPort digits = .ok (some port) := by simpa using hport
    obtain ⟨rfl, hunended, henclosed, _⟩ := enclosed_of_splitHost hsplit
    obtain ⟨digits, rest, rfl, hne, hdecimal, hsmall, hended, rfl⟩ := readPort_eq_some hread
    exact ⟨⟨user, name, digits, rest, hleading, henclosed rfl, hunended, hne, hdecimal, hsmall,
      hended⟩, rfl, rfl⟩
  · rintro ⟨a, rfl, rfl⟩
    obtain ⟨named, hok⟩ := a.skipUser_text
    obtain ⟨rfl, rfl⟩ := Prod.mk.inj (Except.ok.inj (hskip.symm.trans hok))
    have hscan := splitHost_append a.enclosed a.unended (a.digits ++ a.rest)
    obtain ⟨rfl, rfl⟩ := Prod.mk.inj (hsplit.symm.trans hscan)
    rcases hport with ⟨digits, hcons, hread⟩ | ⟨hcolon, _⟩
    · obtain rfl : a.digits ++ a.rest = digits := (List.cons.inj hcons).2
      have hdigits := readPort_append a.written a.decimal a.small a.ended
      exact Except.ok.inj (hread.symm.trans hdigits)
    · exact absurd rfl (hcolon _)

end Authority

end ServerLogin.Url
