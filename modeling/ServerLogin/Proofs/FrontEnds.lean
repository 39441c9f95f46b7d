import ServerLogin.Proofs.Conversion
import ServerLogin.Proofs.Profile.Storage
import ServerLogin.Proofs.Template.Rendering

/-!
Three ways to ask for the same login: by options, by raw arguments and by a profile.
Each has escapes of its own and its own way to the credentials, but all of them come
to the same result.
-/

namespace ServerLogin.Login

open CommandLine Text

/-- A login as it is asked for.  The texts have no blanks around them, since raw
arguments do not keep those. -/
structure Request where
  host : String
  port : Option UInt16
  username : String
  password : String
  group : Option Int64
  host_trimmed : trim host = host
  host_ne : host ≠ ""
  username_trimmed : trim username = username
  password_trimmed : trim password = password

namespace Request

variable (r : Request)

def options : Options where
  host := some r.host
  port := r.port
  user := some r.username
  password := some r.password
  group := r.group

/-- The values that raw arguments give to their keys. -/
def values : RawArguments.Settings where
  host := r.host
  port := r.port
  user := r.username
  pass := r.password
  group := r.group

/-- The raw arguments that ask for a login, each number sign behind a backslash. -/
def arguments : List String :=
  r.values.texts.map fun (key, text) => RawArguments.written key text none

def profile (allowAll : Bool) : Profile where
  host := r.host
  port := r.port
  username := r.username
  password := r.password
  groupId := r.group.getD defaultGroup
  allowAllVariables := allowAll

/-- The profile as it stands in a document, where dollar signs are doubled. -/
def template (allowAll : Bool) : Profile :=
  { r.profile allowAll with
    host := Template.doubleDollars r.host
    username := Template.doubleDollars r.username
    password := Template.doubleDollars r.password }

/-- What a request comes to: credentials are built for it, and its group is set. -/
def outcome : Except LoginError Credentials :=
  (Credentials.build r.username r.password r.host r.port).result.map fun c =>
    { c with groupId := r.group.getD defaultGroup }

theorem host_not_blank : (trimChars r.host.toList).isEmpty = false := by
  have htrim : trimChars r.host.toList = r.host.toList := by
    rw [← String.toList_ofList (l := trimChars _), ← trim, r.host_trimmed]
  rw [htrim, List.isEmpty_eq_false_iff]
  intro hnil
  exact r.host_ne (String.toList_eq_nil_iff.mp hnil)

/-- Whether all variables are allowed is of no importance for credentials. -/
theorem toCredentials_profile (allowAll : Bool) :
    (r.profile allowAll).toCredentials.result = r.outcome := by
  have hblank : (trimChars (r.profile allowAll).host.toList).isEmpty = false := r.host_not_blank
  rw [Profile.result_toCredentials hblank, outcome, Credentials.result_build]
  change (Server.withHost? {} r.host).bind _ = ((Server.withHost? {} r.host).bind _).map _
  cases Server.withHost? {} r.host with
  | error e => rfl
  | ok server =>
    change (Credentials.resolvePort r.port server).map _ =
      ((Credentials.resolvePort r.port server).map _).map _
    cases Credentials.resolvePort r.port server <;> rfl

theorem expand_template (allowAll : Bool) (lookup : String → Option String) :
    (r.template allowAll).expand lookup = r.profile allowAll := by
  simp only [Profile.expand, template, profile, Template.expand_doubleDollars, Option.map_none]

theorem override_options : override r.options {} = r.profile false := by
  simp [override, options, profile]

theorem values_trimmed : r.values.trimmed = r.values := by
  simp only [RawArguments.Settings.trimmed, values, r.host_trimmed, r.username_trimmed,
    r.password_trimmed, Option.map_none]

theorem writes_arguments : List.Forall₂ RawArguments.Writes r.values.texts r.arguments := by
  rw [arguments, List.forall₂_map_right_iff, List.forall₂_same]
  exact fun entry _ => ⟨none, rfl⟩

variable {r} in
/-- The raw arguments of a request, in any order, are interpreted as it was meant. -/
theorem interpret_arguments {arguments : List String} (h : arguments.Perm r.arguments) :
    (RawArguments.interpret arguments).result = r.outcome := by
  have hperm : arguments.Perm (r.arguments ++ []) := by rwa [List.append_nil]
  have hvalues :=
    RawArguments.result_addAll_of_perm r.writes_arguments (List.forall_mem_nil _) hperm
  have hhost : r.values.host ≠ "" := r.host_ne
  rw [r.values_trimmed] at hvalues
  rw [RawArguments.interpret, Outcome.result_bind, hvalues]
  exact RawArguments.result_credentials hhost

theorem arguments_ne_nil : r.arguments ≠ [] := List.cons_ne_nil _ _

theorem credentials_options (s : Session) :
    (credentials r.options s).2 = during none r.outcome := by
  rw [result_credentials]
  change during none (override r.options {}).toCredentials.result = _
  rw [override_options, toCredentials_profile]

variable {r} in
theorem credentials_arguments {arguments : List String} (h : arguments.Perm r.arguments)
    (s : Session) :
    (credentials { rawArguments := arguments } s).2 =
      during (some "Failed to interpret raw connection arguments") r.outcome := by
  have hne : arguments ≠ [] := by
    rintro rfl
    exact r.arguments_ne_nil h.nil_eq.symm
  rw [credentials_of_rawArguments hne, interpret_arguments h]

variable {r} in
theorem credentials_profile {path : Path} {text : String} {allowAll : Bool} {s : Session}
    (hfile : Profile.contents path s = .ok text)
    (hprofile : Profile.ofText text = .ok (r.template allowAll)) :
    (credentials { profile := some path } s).2 = during none r.outcome := by
  obtain ⟨env, hload⟩ := Profile.result_load hfile
  have hparse : (Profile.parse env.text? text).result = .ok (r.profile allowAll) := by
    rw [Profile.result_parse, hprofile, ← r.expand_template allowAll env.text?]
  rw [result_credentials]
  change (during _ (Profile.load path s).2).bind _ = _
  rw [hload, hparse]
  change during none (override _ (r.profile allowAll)).toCredentials.result = _
  rw [override_of_source, toCredentials_profile]

end Request

/-- A login fails with an error, whatever was being done. -/
def Fails (result : Except Failure Credentials) (error : LoginError) : Prop :=
  ∃ doing, result = .error ⟨doing, error⟩

/-- The three front ends agree.  A login that is asked for by options, by raw
arguments in any order, or by a profile, in any three sessions and whether or not the
profile allows all variables, gives the same credentials each time or fails with the
same error each time. -/
theorem front_ends_agree (r : Request) (s₁ s₂ s₃ : Session) (arguments : List String)
    (path : Path) (text : String) (allowAll : Bool) (harguments : arguments.Perm r.arguments)
    (hfile : Profile.contents path s₃ = .ok text)
    (hprofile : Profile.ofText text = .ok (r.template allowAll)) :
    (∃ c, r.outcome = .ok c ∧ (credentials r.options s₁).2 = .ok c ∧
      (credentials { rawArguments := arguments } s₂).2 = .ok c ∧
      (credentials { profile := some path } s₃).2 = .ok c) ∨
    ∃ error, r.outcome = .error error ∧ Fails (credentials r.options s₁).2 error ∧
      Fails (credentials { rawArguments := arguments } s₂).2 error ∧
      Fails (credentials { profile := some path } s₃).2 error := by
  rw [r.credentials_options, Request.credentials_arguments harguments,
    Request.credentials_profile hfile hprofile]
  cases r.outcome with
  | ok c => exact Or.inl ⟨c, rfl, rfl, rfl, rfl⟩
  | error e => exact Or.inr ⟨e, rfl, ⟨_, rfl⟩, ⟨_, rfl⟩, ⟨_, rfl⟩⟩

/-- A request whose texts hold what raw arguments and profiles have to escape. -/
def marked : Request where
  host := "wss://h:4066/$#"
  port := none
  username := "a$#b"
  password := "p\\#$$"
  group := some 7
  host_trimmed := by decide
  host_ne := by decide
  username_trimmed := by decide
  password_trimmed := by decide

/-- A profile that asks for the same. -/
def markedText : String :=
  "host: wss://h:4066/$$#\nusername: a$$#b\npassword: p\\#$$$$\ngroup_id: 7\n" ++
    "allow_all_env_vars: true\n"

/-- A session in which that profile is stored. -/
def markedSession : Session where
  files := { nodes := [(["p.yaml"], .file 0)], files := #[⟨markedText.toUTF8, 0o600⟩] }

/-- The same credentials in spite of three kinds of escapes. -/
theorem front_ends_agree_marked :
    ∃ c, (credentials marked.options {}).2 = .ok c ∧
      (credentials { rawArguments := ["--omero.group=7", "--omero.pass=p\\\\#$$",
        "--omero.user=a$\\#b", "--omero.host=wss://h:4066/$\\#"] } {}).2 = .ok c ∧
      (credentials { profile := some ⟨"p.yaml"⟩ } markedSession).2 = .ok c ∧
      c.server.port = some 4066 ∧ c.user = ⟨"a$#b", "p\\#$$"⟩ := by
  have hport : (marked.outcome).map (fun c => (c.server.port, c.user)) =
      .ok (some 4066, ⟨"a$#b", "p\\#$$"⟩) := by decide +kernel
  have hagree := front_ends_agree marked {} {} markedSession
    ["--omero.group=7", "--omero.pass=p\\\\#$$", "--omero.user=a$\\#b",
      "--omero.host=wss://h:4066/$\\#"] ⟨"p.yaml"⟩ markedText true
    (by decide) (by decide +kernel) (by decide +kernel)
  rcases hagree with ⟨c, houtcome, hoptions, harguments, hprofile⟩ | ⟨error, houtcome, _⟩
  · rw [houtcome] at hport
    obtain ⟨hport, huser⟩ := Prod.mk.inj (Except.ok.inj hport)
    exact ⟨c, hoptions, harguments, hprofile, hport, huser⟩
  · rw [houtcome] at hport
    cases hport

end ServerLogin.Login
