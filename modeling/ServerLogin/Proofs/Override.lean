import ServerLogin.Proofs.Conversion
import ServerLogin.Proofs.PortResolution

/-!
Options over a base.  A profile is turned into credentials after the options have been
put in place, so only the host and the port that come out of that are looked at.  Raw
arguments are turned into credentials before, so the host and the port that they give have
to be good enough for themselves, even where an option replaces them.
-/

namespace ServerLogin

open ServerLogin.Text

namespace Credentials

/-- A host that is not blank and that credentials are built for, whoever logs in. -/
def Accepts (host : String) (given : Option UInt16) : Prop :=
  (trimChars host.toList).isEmpty = false ∧
    ∀ username password, ∃ c, (build username password host given).result = .ok c

theorem build_isOk_iff {username password host : String} {given : Option UInt16} :
    (∃ c, (build username password host given).result = .ok c) ↔
      ¬Malformed host ∧ ¬Unsupported given host := by
  rcases build_cases username password host given with
    ⟨hform, fault, h⟩ | ⟨_, hsupp, scheme, h⟩ | ⟨hform, hsupp, port, hostname, protocol, _, h⟩
  · simp [h, hform]
  · simp [h, hsupp]
  · simp [h, hform, hsupp]

theorem accepts_iff {host : String} {given : Option UInt16} :
    Accepts host given ↔ (trimChars host.toList).isEmpty = false ∧ ¬Malformed host ∧
      ¬Unsupported given host := by
  rw [Accepts]
  simp only [build_isOk_iff, forall_const]

/-- A port that is given on top does not make a host be refused. -/
theorem Accepts.or {host : String} {given : Option UInt16} (h : Accepts host given)
    (port : Option UInt16) : Accepts host (port.or given) := by
  obtain ⟨hblank, hform, hsupp⟩ := accepts_iff.mp h
  refine accepts_iff.mpr ⟨hblank, hform, ?_⟩
  rintro ⟨hnone, hurl⟩
  exact hsupp ⟨(Option.or_eq_none_iff.mp hnone).2, hurl⟩

end Credentials

open Credentials

theorem Profile.toCredentials_isOk_iff {p : Profile} :
    (∃ c, p.toCredentials.result = .ok c) ↔ Accepts p.host p.port := by
  constructor
  · rintro ⟨c, hc⟩
    obtain ⟨hblank, server, port, hserver, hport, _⟩ := Profile.toCredentials_eq_ok_iff.mp hc
    refine ⟨hblank, ?_⟩
    intro username password
    exact ⟨_, build_eq_ok_iff.mpr ⟨server, port, hserver, hport, rfl⟩⟩
  · rintro ⟨hblank, hbuild⟩
    obtain ⟨c, hc⟩ := hbuild p.username p.password
    obtain ⟨server, port, hserver, hport, _⟩ := build_eq_ok_iff.mp hc
    exact ⟨_, Profile.toCredentials_eq_ok_iff.mpr ⟨hblank, server, port, hserver, hport, rfl⟩⟩

namespace RawArguments

/-- Well-formed arguments give credentials when their last host is accepted with their
last port. -/
theorem interpret_isOk_iff {arguments : List String} (hwell : WellFormed arguments) :
    (∃ c, (interpret arguments).result = .ok c) ↔
      Accepts (lastHost arguments) (lastPort arguments) := by
  have hport : (Settings.lastValues {} arguments).port = lastPort arguments :=
    Option.or_none
  have hhost : (Settings.lastValues {} arguments).host = lastHost arguments := rfl
  constructor
  · rintro ⟨c, hc⟩
    obtain ⟨_, hcredentials⟩ := interpret_eq_ok_iff.mp hc
    obtain ⟨hne, built, hbuilt, _⟩ := Settings.credentials_eq_ok_iff.mp hcredentials
    rw [hport, hhost] at hbuilt
    obtain ⟨hform, hsupp⟩ := build_isOk_iff.mp ⟨built, hbuilt⟩
    refine accepts_iff.mpr ⟨?_, hform, hsupp⟩
    rw [← Bool.not_eq_true, lastHost_blank_iff]
    exact hne
  · rintro ⟨hblank, hbuild⟩
    rw [← Bool.not_eq_true, lastHost_blank_iff] at hblank
    obtain ⟨built, hbuilt⟩ := hbuild (Settings.lastValues {} arguments).login.username
      (Settings.lastValues {} arguments).login.password
    rw [← hport, ← hhost] at hbuilt
    exact ⟨_, interpret_eq_ok_iff.mpr
      ⟨hwell, Settings.credentials_eq_ok_iff.mpr ⟨hblank, built, hbuilt, rfl⟩⟩⟩

end RawArguments

namespace Login

open CommandLine RawArguments

/-- The host that options ask for over the host of a base. -/
def hostOver (o : Options) (host : String) : String := o.host.getD host

/-- The port that options ask for over the port of a base, which belongs to the host of
the base. -/
def portOver (o : Options) (port : Option UInt16) : Option UInt16 :=
  o.port.or (if o.host.isSome then none else port)

/-- Once the settings of the base are there, only the host and the port decide whether
they give credentials. -/
theorem credentials_isOk_iff {o : Options} {s : Session} {p : Profile}
    (h : (settings (base o s.environment) s).2 = .ok p) :
    (∃ c, (credentials o s).2 = .ok c) ↔ Accepts (hostOver o p.host) (portOver o p.port) := by
  rw [result_credentials, h]
  change (∃ c, during none (override o p).toCredentials.result = .ok c) ↔ _
  have hover : (∃ c, (override o p).toCredentials.result = .ok c) ↔
      Accepts (hostOver o p.host) (portOver o p.port) := Profile.toCredentials_isOk_iff
  rw [← hover]
  cases (override o p).toCredentials.result with
  | error e => simp [during]
  | ok c => simp [during]

/-- Raw arguments that fail make the whole login fail. -/
theorem credentials_of_interpret_error {o : Options} {s : Session} {e : LoginError}
    (hraw : o.rawArguments ≠ []) (h : (interpret o.rawArguments).result = .error e) :
    (credentials o s).2 = .error ⟨some "Failed to interpret raw connection arguments", e⟩ := by
  rw [result_credentials, base_of_arguments o hraw]
  change (during _ (argumentSettings o.rawArguments).result).bind _ = _
  rw [result_argumentSettings, h]
  rfl

theorem settings_of_interpret {o : Options} {s : Session} {c : Credentials}
    (hraw : o.rawArguments ≠ []) (h : (interpret o.rawArguments).result = .ok c) :
    (settings (base o s.environment) s).2 = .ok (Profile.ofCredentials c) := by
  rw [base_of_arguments o hraw]
  change during _ (argumentSettings o.rawArguments).result = _
  rw [result_argumentSettings, h]
  rfl

def overProfile (o : Options) (path : Path) : Options :=
  { o with rawArguments := [], defaultProfile := false, profile := some path }

theorem settings_of_load {o : Options} {s : Session} {path : Path} {p : Profile}
    (h : (Profile.load path s).2 = .ok p) :
    (settings (base (overProfile o path) s.environment) s).2 = .ok p := by
  change during _ (Profile.load path s).2 = _
  rw [h]
  rfl

/-- A port that was resolved for the host of a base is as good as the one it was resolved
from. -/
theorem accepts_over_iff {o : Options} {host : String} {given : Option UInt16} {port : UInt16}
    (h : Accepts host given) :
    Accepts (hostOver o host) (portOver o (some port)) ↔
      Accepts (hostOver o host) (portOver o given) := by
  cases hhost : o.host with
  | some other => simp only [portOver, hhost, Option.isSome_some, if_true]
  | none =>
    simp only [hostOver, portOver, hhost, Option.getD_none, Option.isSome_none,
      Bool.false_eq_true, if_false]
    have hresolved : Accepts host (o.port.or (some port)) := by
      have hmore := h.or (o.port.or (some port))
      rwa [Option.or_assoc, Option.some_or] at hmore
    exact ⟨fun _ => h.or o.port, fun _ => hresolved⟩

/-- Options over raw arguments.  Such a login succeeds when the host and the port that
come out are accepted and, besides, the arguments are accepted by themselves, even where
options replace what they give; otherwise it fails while they are interpreted.  Over a
profile with the same host and port, only what comes out has to be accepted. -/
theorem credentials_over_arguments (o : Options) (s : Session) (hraw : o.rawArguments ≠ [])
    (hwell : WellFormed o.rawArguments) :
    ((∃ c, (credentials o s).2 = .ok c) ↔
      Accepts (lastHost o.rawArguments) (lastPort o.rawArguments) ∧
        Accepts (hostOver o (lastHost o.rawArguments)) (portOver o (lastPort o.rawArguments))) ∧
    (¬Accepts (lastHost o.rawArguments) (lastPort o.rawArguments) → ∃ e,
      (credentials o s).2 = .error ⟨some "Failed to interpret raw connection arguments", e⟩) ∧
    ∀ (path : Path) (t : Session) (p : Profile), (Profile.load path t).2 = .ok p →
      p.host = lastHost o.rawArguments → p.port = lastPort o.rawArguments →
      ((∃ c, (credentials (overProfile o path) t).2 = .ok c) ↔
        Accepts (hostOver o (lastHost o.rawArguments)) (portOver o (lastPort o.rawArguments))) := by
  have hbase := interpret_isOk_iff hwell
  refine ⟨?_, ?_, ?_⟩
  · cases hinterpret : (interpret o.rawArguments).result with
    | error e =>
      rw [hinterpret] at hbase
      rw [← hbase, credentials_of_interpret_error hraw hinterpret]
      simp
    | ok c =>
      have haccepts := hbase.mp ⟨c, hinterpret⟩
      obtain ⟨hhost, _, ⟨port, hport⟩, _⟩ := fields_of_interpret hinterpret
      rw [credentials_isOk_iff (settings_of_interpret hraw hinterpret)]
      change Accepts (hostOver o c.server.host) (portOver o c.server.port) ↔ _
      rw [hhost, hport, accepts_over_iff haccepts]
      exact (and_iff_right haccepts).symm
  · intro hrefused
    cases hinterpret : (interpret o.rawArguments).result with
    | error e => exact ⟨e, credentials_of_interpret_error hraw hinterpret⟩
    | ok c => exact absurd (hbase.mp ⟨c, hinterpret⟩) hrefused
  · intro path t p hload hhost hport
    rw [credentials_isOk_iff (settings_of_load hload), hhost, hport]
    rfl

/-- The option replaces the host, and still the login fails at the host that it replaces. -/
theorem credentials_over_arguments_replaced :
    let o : Options := { host := some "localhost", rawArguments := ["--omero.host=ftp://old"] }
    o.rawArguments ≠ [] ∧ WellFormed o.rawArguments ∧
      Accepts (hostOver o (lastHost o.rawArguments)) (portOver o (lastPort o.rawArguments)) ∧
      ¬Accepts (lastHost o.rawArguments) (lastPort o.rawArguments) ∧
      ¬∃ c, (credentials o {}).2 = .ok c := by
  intro o
  have hwell : WellFormed o.rawArguments := by
    constructor <;> decide +kernel
  have hhost : lastHost o.rawArguments = "ftp://old" := by decide +kernel
  have hport : lastPort o.rawArguments = none := by decide +kernel
  have hread : Url.read "ftp://old" = .ok ⟨"ftp", some (.domain "old"), none⟩ := by
    decide +kernel
  have hover : Accepts "localhost" none := by
    have hbare : ¬Server.NamesUrl "localhost" := by
      rw [← Server.isUrlText_iff]
      decide
    exact accepts_iff.mpr ⟨by decide, fun h => hbare h.1, fun h => hbare h.2.1⟩
  have hbase : ¬Accepts (lastHost o.rawArguments) (lastPort o.rawArguments) := by
    rw [hhost, hport]
    intro h
    have hurl : Server.NamesUrl "ftp://old" := ⟨"ftp".toList, "old".toList, by decide⟩
    exact (accepts_iff.mp h).2.2 ⟨rfl, hurl, _, hread, rfl, by decide⟩
  refine ⟨by decide, hwell, hover, hbase, ?_⟩
  rw [(credentials_over_arguments o {} (by decide) hwell).1]
  exact fun h => hbase h.1

end Login
end ServerLogin
