import ServerLogin.Credentials
import ServerLogin.Proofs.Number.Single
import ServerLogin.Proofs.Server.Address

/-!
What building credentials comes to: the address of the host, and the port that is
resolved for it.  The check is one of ranges, and sealing changes nothing.
-/

namespace ServerLogin

namespace Server

theorem host_of_withHost? {server server' : Server} {host : String}
    (h : server.withHost? host = .ok server') : server'.host = host := by
  unfold withHost? at h
  split at h
  · split at h
    · cases h
    · cases h
      rfl
  · cases h
    rfl

end Server

namespace Credentials

theorem result_build (username password host : String) (given : Option UInt16) :
    (build username password host given).result =
      (Server.withHost? {} host).bind fun server =>
        (resolvePort given server).map fun port =>
          { user := ⟨username, password⟩, server := server.setPort port } := by
  simp only [build, Server.ofHost, Outcome.result_bind, Server.result_setHost,
    Outcome.result_ofResult]
  cases Server.withHost? {} host with
  | error e => rfl
  | ok server =>
    simp only [Except.bind]
    cases resolvePort given server <;> rfl

/-- The credentials that are built, if any: only the user and the address are set. -/
theorem build_eq_ok_iff {username password host : String} {given : Option UInt16}
    {c : Credentials} : (build username password host given).result = .ok c ↔
      ∃ server port, Server.withHost? {} host = .ok server ∧ resolvePort given server = .ok port ∧
        c = { user := ⟨username, password⟩, server := server.setPort port } := by
  rw [result_build]
  constructor
  · intro h
    cases hserver : Server.withHost? {} host with
    | error e =>
      rw [hserver] at h
      cases h
    | ok server =>
      rw [hserver, Except.bind] at h
      cases hport : resolvePort given server with
      | error e =>
        rw [hport] at h
        cases h
      | ok port =>
        rw [hport] at h
        cases h
        exact ⟨server, port, rfl, hport, rfl⟩
  · rintro ⟨server, port, hserver, hport, rfl⟩
    rw [hserver, Except.bind, hport]
    rfl

theorem validate_eq_ok_iff_fault {c : Credentials} : c.validate = .ok () ↔ c.fault? = none := by
  unfold validate
  cases c.fault? with
  | none => exact ⟨fun _ => rfl, fun _ => rfl⟩
  | some fault => exact ⟨nofun, nofun⟩

/-- Credentials pass the check when their compression is a number between zero and one and
their group is the default one or has an id that is not negative. -/
theorem validate_eq_ok_iff (c : Credentials) :
    c.validate = .ok () ↔
      (∃ q, c.compression.value? = some q ∧ 0 ≤ q ∧ q ≤ 1) ∧ defaultGroup ≤ c.groupId := by
  rw [validate_eq_ok_iff_fault, ← Number.Single.inUnitInterval_iff, ← Int64.not_lt]
  unfold fault?
  cases c.compression.inUnitInterval with
  | false => exact ⟨nofun, fun h => nomatch h.1⟩
  | true =>
    by_cases hgroup : c.groupId < defaultGroup
    · rw [if_neg nofun, if_pos hgroup]
      exact ⟨nofun, fun h => absurd hgroup h.2⟩
    · rw [if_neg nofun, if_neg hgroup]
      exact ⟨fun _ => ⟨rfl, hgroup⟩, fun _ => rfl⟩

theorem seal_of_fault {c : Credentials} {fault : SettingFault} (h : c.fault? = some fault) :
    c.seal.result = .error (.invalidSetting fault) := by
  unfold Credentials.seal
  split
  · next fault' h' =>
    cases h.symm.trans h'
    rfl
  · next h' => exact absurd (h.symm.trans h') nofun

theorem seal_of_valid {c : Credentials} (h : c.fault? = none) : c.seal.result = .ok ⟨c, h⟩ := by
  unfold Credentials.seal
  split
  · next fault h' => exact absurd (h.symm.trans h') nofun
  · rfl

/-- Sealing only checks. -/
theorem credentials_of_seal {c : Credentials} {sealed : SealedCredentials}
    (h : c.seal.result = .ok sealed) : sealed.credentials = c := by
  unfold Credentials.seal at h
  split at h
  · cases h
  · cases h
    rfl

end Credentials
end ServerLogin
