import Mathlib.Data.List.Forall2
import ServerLogin.Profile.Basic
import ServerLogin.Proofs.Outcome
import ServerLogin.RawArguments

/-!
Building and checking credentials with two passwords.  Values that differ in
nothing but the password are followed through the operations on them: the same is
logged, the same errors arise, and the results again differ in nothing but the
password.
-/

namespace ServerLogin

open ServerLogin.Text

theorem viewSecret_eq {p q : String} (h : p = "" ↔ q = "") : viewSecret p = viewSecret q := by
  have hempty : p.isEmpty = q.isEmpty :=
    Bool.eq_iff_iff.mpr (String.isEmpty_iff.trans (h.trans String.isEmpty_iff.symm))
  rw [viewSecret, viewSecret, hempty]

namespace Credentials

def setPassword (c : Credentials) (password : String) : Credentials :=
  { c with user := { c.user with password := password } }

/-- Credentials that differ in nothing but the password. -/
def SameButPassword (c d : Credentials) : Prop := ∃ password, d = c.setPassword password

/-- The password is only kept, not looked at. -/
theorem build_related (username password other host : String) (port : Option UInt16) :
    (build username password host port).Related SameButPassword
      (build username other host port) := by
  unfold build
  refine .bind_same fun server => .bind_same fun port => ?_
  exact .bind_same fun _ => .pure ⟨other, rfl⟩

/-- Whether credentials pass the check does not depend on the password. -/
theorem seal_related {c d : Credentials} (h : SameButPassword c d) :
    c.seal.Related (fun a b => a.credentials = c ∧ b.credentials = d) d.seal := by
  obtain ⟨password, rfl⟩ := h
  unfold Credentials.seal
  split
  · next fault hfault =>
    split
    · next fault' hfault' =>
      have hsame : fault = fault' := Option.some.inj (hfault.symm.trans hfault')
      exact ⟨rfl, hsame ▸ .error _⟩
    · next hfault' => exact absurd (hfault.symm.trans hfault') nofun
  · next hfault =>
    split
    · next fault' hfault' => exact absurd (hfault.symm.trans hfault') nofun
    · exact .bind_same fun _ => .pure ⟨rfl, rfl⟩

end Credentials

namespace Profile

def setPassword (p : Profile) (password : String) : Profile := { p with password := password }

def SameButPassword (p q : Profile) : Prop := ∃ password, q = p.setPassword password

theorem SameButPassword.refl (p : Profile) : p.SameButPassword p := ⟨p.password, rfl⟩

theorem toCredentials_related {p q : Profile} (h : p.SameButPassword q) :
    p.toCredentials.Related Credentials.SameButPassword q.toCredentials := by
  obtain ⟨password, rfl⟩ := h
  unfold toCredentials setPassword
  split
  · exact ⟨rfl, .error _⟩
  · refine (Credentials.build_related p.username p.password password p.host p.port).bind ?_
    rintro c _ ⟨other, rfl⟩
    exact .pure ⟨other, rfl⟩

theorem ofCredentials_sameButPassword {c d : Credentials} (h : c.SameButPassword d) :
    (ofCredentials c).SameButPassword (ofCredentials d) := by
  obtain ⟨password, rfl⟩ := h
  exact ⟨password, rfl⟩

theorem view_eq {p q : Profile} (h : p.SameButPassword q)
    (hempty : p.password = "" ↔ q.password = "") : p.view = q.view := by
  obtain ⟨password, rfl⟩ := h
  unfold view
  rw [viewSecret_eq hempty]
  rfl

end Profile

namespace RawArguments

def Settings.SameButPassword (s t : Settings) : Prop := ∃ pass, t = { s with pass := pass }

/-- Arguments that are the same, or that both give a password. -/
def SameArgument (a b : String) : Prop :=
  a = b ∨ ∃ v w, read a = .property .pass v ∧ read b = .property .pass w

namespace Settings

variable {s t : Settings}

theorem set_agree (h : s.SameButPassword t) (key : Key) (value : String) :
    Agree SameButPassword (s.set key value) (t.set key value) := by
  obtain ⟨pass, rfl⟩ := h
  cases key with
  | host => exact .ok ⟨pass, rfl⟩
  | user => exact .ok ⟨pass, rfl⟩
  | pass => exact .ok ⟨value, rfl⟩
  | session => exact .ok ⟨pass, rfl⟩
  | port =>
    unfold Settings.set
    cases Number.uint16? value.toList with
    | none => exact .error _
    | some port => exact .ok ⟨pass, rfl⟩
  | group =>
    unfold Settings.set
    cases Number.int64? value.toList with
    | none => exact .error _
    | some group => exact .ok ⟨pass, rfl⟩

theorem add_related (h : s.SameButPassword t) {a b : String} (hab : SameArgument a b) :
    (s.add a).Related SameButPassword (t.add b) := by
  rcases hab with rfl | ⟨v, w, ha, hb⟩
  · unfold add
    cases read a with
    | skipped message => exact .bind_same fun _ => .pure h
    | property key value => exact ⟨rfl, set_agree h key value⟩
  · obtain ⟨pass, rfl⟩ := h
    rw [add, ha, add, hb]
    exact ⟨rfl, .ok ⟨w, rfl⟩⟩

theorem addAll_related (h : s.SameButPassword t) {arguments others : List String}
    (hall : List.Forall₂ SameArgument arguments others) :
    (s.addAll arguments).Related SameButPassword (t.addAll others) := by
  induction hall generalizing s t with
  | nil => exact .pure h
  | cons hab _ ih => exact (add_related h hab).bind fun _ _ h => ih h

theorem credentials_related (h : s.SameButPassword t) :
    s.credentials.Related Credentials.SameButPassword t.credentials := by
  obtain ⟨pass, rfl⟩ := h
  have hlogin : (login { s with pass := pass }).username = s.login.username := by
    unfold login
    cases s.session <;> rfl
  unfold credentials
  dsimp only
  split
  · exact ⟨rfl, .error _⟩
  · rw [hlogin]
    refine (Credentials.build_related ..).bind ?_
    rintro c _ ⟨other, rfl⟩
    exact .pure ⟨other, rfl⟩

end Settings

theorem interpret_related {arguments others : List String}
    (h : List.Forall₂ SameArgument arguments others) :
    (interpret arguments).Related Credentials.SameButPassword (interpret others) :=
  (Settings.addAll_related ⟨"", rfl⟩ h).bind fun _ _ => Settings.credentials_related

end RawArguments
end ServerLogin
