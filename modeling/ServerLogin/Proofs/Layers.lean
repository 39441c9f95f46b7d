import ServerLogin.Proofs.Credentials.Calls
import ServerLogin.Proofs.Override

/-!
Options as layers over a base.  Where the credentials are for is settled by the host and
the port alone, and everything else only has to be put beside it.  So an option with a
field of its own does to the credentials what setting that field does to them, and what
the host and the port come to does not depend on any other option.
-/

namespace ServerLogin

open ServerLogin.Text ServerLogin.Number

/-- The address that a profile with a host and a port gives. -/
def Profile.address (host : String) (given : Option UInt16) : Except LoginError Server :=
  if (trimChars host.toList).isEmpty then .error (.invalidArgument .profileWithoutHost)
  else (Server.withHost? {} host).bind fun server =>
    (Credentials.resolvePort given server).map server.setPort

/-- The address comes first, and then the other fields are put beside it. -/
theorem Profile.result_toCredentials_eq (p : Profile) :
    p.toCredentials.result = (address p.host p.port).map p.withServer := by
  cases hblank : (trimChars p.host.toList).isEmpty with
  | true => simp [toCredentials, address, hblank, Outcome.fail, Except.map]
  | false =>
    rw [result_toCredentials hblank, address, hblank]
    cases Server.withHost? {} p.host with
    | error e => rfl
    | ok server =>
      simp only [Except.bind, Bool.false_eq_true, if_false]
      cases Credentials.resolvePort p.port server <;> rfl

namespace Login

open CommandLine

/-- An option with a field of its own, and its value if it takes one. -/
inductive Detail
  | user (name : String)
  | password (secret : String)
  | group (id : Int64)
  | appName (name : String)
  | compression (level : Single)
  | noEncryption
  | noCheckNetwork
  | noCheckVersion

/-- The options with one more, or with another value for it. -/
def Detail.give (detail : Detail) (o : Options) : Options :=
  match detail with
  | user name => { o with user := some name }
  | password secret => { o with password := some secret }
  | group id => { o with group := some id }
  | appName name => { o with appName := some name }
  | compression level => { o with compression := some level }
  | noEncryption => { o with noEncryption := true }
  | noCheckNetwork => { o with noCheckNetwork := true }
  | noCheckVersion => { o with noCheckVersion := true }

/-- The call that sets the field of an option. -/
def Detail.call : Detail → Credentials.Call
  | user name => .setUsername name
  | password secret => .setPassword secret
  | group id => .setGroupId id
  | appName name => .setApplicationName (some name)
  | compression level => .setCompression level
  | noEncryption => .setEncryption false
  | noCheckNetwork => .setCheckNetwork false
  | noCheckVersion => .setCheckVersion false

variable {o : Options} {s : Session} {p : Profile}

theorem base_give (detail : Detail) (o : Options) (env : Environment) :
    base (detail.give o) env = base o env := by
  cases detail <;> rfl

/-- An option decides its own field, whatever the base has there, and no other. -/
theorem withServer_override_give (detail : Detail) (o : Options) (p : Profile) (server : Server) :
    (override (detail.give o) p).withServer server =
      (detail.call.run ((override o p).withServer server)).2 := by
  cases detail with
  | noEncryption => simp only [override, Detail.give, Bool.not_true, Bool.and_false]; rfl
  | noCheckNetwork => simp only [override, Detail.give, Bool.not_true, Bool.and_false]; rfl
  | noCheckVersion => simp only [override, Detail.give, Bool.not_true, Bool.and_false]; rfl
  | _ => rfl

/-- The credentials that options ask for over a base. -/
theorem result_credentials_over (h : (settings (base o s.environment) s).2 = .ok p) :
    (credentials o s).2 = during none
      ((Profile.address (hostOver o p.host) (portOver o p.port)).map
        (override o p).withServer) := by
  rw [result_credentials, h]
  exact congrArg (during none) (Profile.result_toCredentials_eq (override o p))

/-- An option does to the credentials what setting its field does to them. -/
theorem credentials_give (detail : Detail) (o : Options) (s : Session) :
    (credentials (detail.give o) s).2 =
      (credentials o s).2.map fun c => (detail.call.run c).2 := by
  have hover : ∀ p : Profile, hostOver (detail.give o) p.host = hostOver o p.host ∧
      portOver (detail.give o) p.port = portOver o p.port := by
    intro p
    cases detail <;> exact ⟨rfl, rfl⟩
  cases h : (settings (base o s.environment) s).2 with
  | error failure =>
    rw [result_credentials, result_credentials, base_give, h]
    rfl
  | ok p =>
    have hgive : (settings (base (detail.give o) s.environment) s).2 = .ok p := by
      rw [base_give, h]
    rw [result_credentials_over h, result_credentials_over hgive, (hover p).1, (hover p).2]
    cases Profile.address (hostOver o p.host) (portOver o p.port) with
    | error e => rfl
    | ok server => exact congrArg Except.ok (withServer_override_give detail o p server)

/-- With a host among the options, the host and the port of the base are of no account. -/
theorem server_of_host {host : String} (h : (settings (base o s.environment) s).2 = .ok p)
    (hhost : o.host = some host) :
    (credentials o s).2.map (·.server) = during none (Profile.address host o.port) := by
  have hover : hostOver o p.host = host := by rw [hostOver, hhost, Option.getD_some]
  have hport : portOver o p.port = o.port := by
    rw [portOver, hhost, Option.isSome_some, if_pos rfl, Option.or_none]
  rw [result_credentials_over h, hover, hport]
  cases Profile.address host o.port <;> rfl

/-- The other fields are those of the base, under the options. -/
theorem eq_withServer_of_credentials {c : Credentials}
    (h : (settings (base o s.environment) s).2 = .ok p) (hc : (credentials o s).2 = .ok c) :
    ∃ server, Profile.address (hostOver o p.host) (portOver o p.port) = .ok server ∧
      c = (override o p).withServer server := by
  rw [result_credentials_over h] at hc
  cases haddress : Profile.address (hostOver o p.host) (portOver o p.port) with
  | error e =>
    rw [haddress] at hc
    cases hc
  | ok server =>
    rw [haddress] at hc
    cases hc
    exact ⟨server, rfl, rfl⟩

theorem port_of_address {host : String} {port : UInt16} {server : Server}
    (h : Profile.address host (some port) = .ok server) : server.port = some port := by
  unfold Profile.address at h
  split at h
  · cases h
  · cases hserver : Server.withHost? {} host with
    | error e =>
      rw [hserver] at h
      cases h
    | ok found =>
      rw [hserver] at h
      cases h
      rfl

/-- Options are layers over a base that could be had.  An option with a field of its own sets
that field of the credentials and nothing else, and does not decide whether there are any.
With a host among the options, the address that comes out, or the error, depends on the host
and the port among them alone, over whatever base.  A port among the options is the port of
the address whatever the host, and then nothing is asked of the host but that it is not
blank and no malformed URL.  The three switches are those of the base, which an option can
turn off and never on. -/
theorem credentials_layered (o : Options) (s : Session) (p : Profile)
    (h : (settings (base o s.environment) s).2 = .ok p) :
    (∀ detail : Detail, (credentials (detail.give o) s).2 =
      (credentials o s).2.map fun c => (detail.call.run c).2) ∧
    (∀ (o' : Options) (s' : Session) (p' : Profile),
      (settings (base o' s'.environment) s').2 = .ok p' →
      o.host.isSome = true → o'.host = o.host → o'.port = o.port →
      (credentials o' s').2.map (·.server) = (credentials o s).2.map (·.server)) ∧
    (∀ port, o.port = some port →
      ((∃ c, (credentials o s).2 = .ok c) ↔
        (trimChars (hostOver o p.host).toList).isEmpty = false ∧
          ¬Malformed (hostOver o p.host)) ∧
      ∀ c, (credentials o s).2 = .ok c → c.server.port = some port) ∧
    ∀ c, (credentials o s).2 = .ok c →
      c.encryption = (p.encryption && !o.noEncryption) ∧
      c.checkNetwork = (p.checkNetwork && !o.noCheckNetwork) ∧
      c.checkVersion = (p.checkVersion && !o.noCheckVersion) := by
  refine ⟨fun detail => credentials_give detail o s, ?_, ?_, ?_⟩
  · intro o' s' p' h' hsome hhost hport
    obtain ⟨host, hgiven⟩ := Option.isSome_iff_exists.mp hsome
    rw [server_of_host h hgiven, server_of_host h' (hhost.trans hgiven), hport]
  · intro port hport
    have hover : portOver o p.port = some port := by rw [portOver, hport, Option.some_or]
    constructor
    · rw [credentials_isOk_iff h, hover, Credentials.accepts_iff]
      have hsupported : ¬Unsupported (some port) (hostOver o p.host) := fun h => by
        cases h.1
      simp only [hsupported, not_false_eq_true, and_true]
    · intro c hc
      obtain ⟨server, haddress, rfl⟩ := eq_withServer_of_credentials h hc
      rw [hover] at haddress
      exact port_of_address haddress
  · intro c hc
    obtain ⟨server, _, rfl⟩ := eq_withServer_of_credentials h hc
    exact ⟨rfl, rfl, rfl⟩

/-- Options over raw arguments: they replace the address and turn off the encryption, and one
more of them replaces the user name. -/
theorem credentials_layered_over_arguments :
    let o : Options :=
      { host := some "b", port := some 1, noEncryption := true,
        rawArguments := ["--omero.host=wss://h:4065", "--omero.user=root"] }
    let p : Profile := { host := "wss://h:4065", port := some 4065, username := "root" }
    let c : Credentials :=
      { user := ⟨"root", ""⟩, server := ⟨"b", "b", some 1, none⟩, encryption := false }
    (settings (base o {}) {}).2 = .ok p ∧ (credentials o {}).2 = .ok c ∧
      (credentials ((Detail.user "eve").give o) {}).2 = .ok { c with user := ⟨"eve", ""⟩ } ∧
      (credentials { host := some "b", port := some 1 } {}).2.map (·.server) = .ok c.server := by
  intro o p c
  have hbase : (settings (base o {}) {}).2 = .ok p := by decide +kernel
  have hc : (credentials o {}).2 = .ok c := by decide +kernel
  obtain ⟨hdetail, hserver, _⟩ := credentials_layered o {} p hbase
  have hother := hserver { host := some "b", port := some 1 } {} {} rfl rfl rfl rfl
  rw [hdetail, hother, hc]
  exact ⟨hbase, rfl, rfl, rfl⟩

end Login
end ServerLogin
