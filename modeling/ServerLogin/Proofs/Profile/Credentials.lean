import ServerLogin.Profile.Basic
import ServerLogin.Proofs.Credentials
import ServerLogin.Proofs.Secrecy.Credentials

/-!
Credentials from a profile, and the profile that holds their settings.  Credentials
that come from a profile keep the port that was resolved for them, so their own
profile gives the same credentials again.
-/

namespace ServerLogin.Profile

open ServerLogin.Text

/-- The credentials that a profile gives for an address. -/
def withServer (p : Profile) (server : Server) : Credentials where
  user := ⟨p.username, p.password⟩
  server := server
  applicationName := p.applicationName
  encryption := p.encryption
  checkNetwork := p.checkNetwork
  checkVersion := p.checkVersion
  compression := p.compression
  groupId := p.groupId

theorem result_toCredentials {p : Profile} (h : (trimChars p.host.toList).isEmpty = false) :
    p.toCredentials.result =
      (Server.withHost? {} p.host).bind fun server =>
        (Credentials.resolvePort p.port server).map fun port =>
          p.withServer (server.setPort port) := by
  simp only [toCredentials, h, Bool.false_eq_true, if_false, Outcome.result_bind,
    Credentials.result_build]
  cases Server.withHost? {} p.host with
  | error e => rfl
  | ok server =>
    simp only [Except.bind]
    cases Credentials.resolvePort p.port server <;> rfl

theorem toCredentials_eq_ok_iff {p : Profile} {c : Credentials} :
    p.toCredentials.result = .ok c ↔ (trimChars p.host.toList).isEmpty = false ∧
      ∃ server port, Server.withHost? {} p.host = .ok server ∧
        Credentials.resolvePort p.port server = .ok port ∧
          c = p.withServer (server.setPort port) := by
  unfold toCredentials
  cases (trimChars p.host.toList).isEmpty with
  | true => simp [Outcome.fail]
  | false =>
    simp only [Bool.false_eq_true, if_false, true_and, Outcome.result_bind]
    constructor
    · intro h
      cases hbuild : (Credentials.build p.username p.password p.host p.port).result with
      | error e =>
        rw [hbuild] at h
        cases h
      | ok built =>
        rw [hbuild] at h
        cases h
        obtain ⟨server, port, hserver, hport, rfl⟩ := Credentials.build_eq_ok_iff.mp hbuild
        exact ⟨server, port, hserver, hport, rfl⟩
    · rintro ⟨server, port, hserver, hport, rfl⟩
      rw [Credentials.build_eq_ok_iff.mpr ⟨server, port, hserver, hport, rfl⟩]
      rfl

/-- The profile of credentials that came from a profile gives them again, with
whatever password it is given. -/
theorem toCredentials_ofCredentials {p : Profile} {c : Credentials}
    (h : p.toCredentials.result = .ok c) (password : String) :
    ((ofCredentials c).setPassword password).toCredentials.result =
      .ok (c.setPassword password) := by
  obtain ⟨hblank, server, port, hserver, _, rfl⟩ := toCredentials_eq_ok_iff.mp h
  have hhost : server.host = p.host := Server.host_of_withHost? hserver
  refine toCredentials_eq_ok_iff.mpr ⟨?_, server, port, ?_, rfl, rfl⟩
  · change (trimChars server.host.toList).isEmpty = false
    rw [hhost]
    exact hblank
  · change Server.withHost? {} server.host = .ok server
    rw [hhost]
    exact hserver

/-- What credentials show of the profile they came from. -/
theorem eq_of_toCredentials {p : Profile} {c : Credentials} (h : p.toCredentials.result = .ok c) :
    c.server.host = p.host ∧ c.user.username = p.username ∧
      c.applicationName = p.applicationName ∧ c.compression = p.compression := by
  obtain ⟨_, server, port, hserver, _, rfl⟩ := toCredentials_eq_ok_iff.mp h
  have hhost : server.host = p.host := Server.host_of_withHost? hserver
  exact ⟨hhost, rfl, rfl, rfl⟩

end ServerLogin.Profile
