import ServerLogin.Proofs.Login
import ServerLogin.Proofs.Profile.Credentials
import ServerLogin.Proofs.Profile.Document
import ServerLogin.Proofs.Profile.Storage
import ServerLogin.Proofs.Template

/-!
Logging in again from a saved profile.  Saving writes the settings as they are, but
loading expands them, so the settings come back just when none of their texts is
changed by that.
-/

namespace ServerLogin

open CommandLine

namespace Profile

/-- The texts of credentials in which loading expands variables. -/
def templates (c : Credentials) : List String :=
  [c.server.host, c.user.username] ++ c.applicationName.toList

/-- Whether the compression is read back from its text. -/
def CompressionKept (c : Credentials) : Prop :=
  Yaml.number? (c.compression.text .document) = some c.compression

/-- A profile whose texts are all kept is kept. -/
theorem expand_ofCredentials {c : Credentials} {lookup : String → Option String}
    (h : ∀ text ∈ templates c, Template.expand false lookup text = text) :
    ((ofCredentials c).setPassword "").expand lookup = (ofCredentials c).setPassword "" := by
  have hhost := h c.server.host (by simp [templates])
  have husername := h c.user.username (by simp [templates])
  have hpassword : Template.expand false lookup "" = "" :=
    Template.expand_of_isFixed (by simp [Template.isFixed, Template.parse]) lookup
  have hname : c.applicationName.map (Template.expand false lookup) = c.applicationName := by
    cases happ : c.applicationName with
    | none => rfl
    | some name => rw [Option.map_some, h name (by simp [templates, happ])]
  simp only [expand, setPassword, ofCredentials, hhost, husername, hpassword, hname]

/-- Reading back saved credentials gives them without their password just when the
compression is kept and no text is changed by the expansion. -/
theorem parse_toCredentials_iff {p : Profile} {c : Credentials} (h : p.toCredentials.result = .ok c)
    (lookup : String → Option String) :
    (parse lookup (ofCredentials c).toText >>= toCredentials).result = .ok (c.setPassword "") ↔
      CompressionKept c ∧ ∀ text ∈ templates c, Template.expand false lookup text = text := by
  rw [Outcome.result_bind, result_parse, ofText_toText, CompressionKept]
  constructor
  · intro hresult
    cases hread : Yaml.number? ((ofCredentials c).compression.text .document) with
    | none =>
      rw [hread] at hresult
      cases hresult
    | some x =>
      rw [hread] at hresult
      obtain ⟨hhost, husername, hname, hcompression⟩ := eq_of_toCredentials hresult
      refine ⟨hread.trans (congrArg some hcompression.symm), fun text htext => ?_⟩
      rw [templates, List.mem_append, List.mem_cons, List.mem_singleton,
        Option.mem_toList] at htext
      rcases htext with (rfl | rfl) | htext
      · exact hhost.symm
      · exact husername.symm
      · have hmap : c.applicationName = c.applicationName.map (Template.expand false lookup) :=
          hname
        rw [htext] at hmap
        exact (Option.some.inj hmap).symm
  · rintro ⟨hread, hkept⟩
    rw [show (ofCredentials c).compression = c.compression from rfl, hread]
    change (((ofCredentials c).setPassword "").expand lookup).toCredentials.result = _
    rw [expand_ofCredentials hkept]
    exact toCredentials_ofCredentials h ""

end Profile

namespace Login

open Session

/-- The credentials of a login that only names a profile. -/
def reload (path : Path) (env : Environment) (files : FileTree) : Except Failure Credentials :=
  (credentials { profile := some path } { files := files, environment := env }).2

theorem settings_logged (b : Base) (s : Session) : s.Logged (settings b s).1 := by
  cases b with
  | arguments raw => exact .absorb s _
  | file path => exact Profile.load_logged path s
  | nothing => exact .refl s

/-- Before anything is saved, a login does nothing but log; and its credentials come
from a profile. -/
theorem credentials_eq_ok {o : Options} {s s' : Session} {c : Credentials}
    (h : credentials o s = (s', .ok c)) :
    s.Logged s' ∧ ∃ p : Profile, p.toCredentials.result = .ok c := by
  have hsettings := settings_logged (base o s.environment) s
  unfold credentials at h
  split at h
  · cases h
  · next s₁ profile hbase =>
    rw [hbase] at hsettings
    cases hresult : (override o profile).toCredentials.result with
    | error e =>
      simp only [Session.absorb, hresult, during] at h
      cases h
    | ok built =>
      simp only [Session.absorb, hresult, during] at h
      cases h
      exact ⟨hsettings.trans (.absorb s₁ _), override o profile, hresult⟩

/-- A login that only names a profile takes the document at its path for what it is. -/
theorem reload_eq_ok_iff {path : Path} {env : Environment} {files : FileTree} {text : String}
    (h : files.HoldsText path text) (c : Credentials) :
    reload path env files = .ok c ↔
      (Profile.parse env.text? text >>= Profile.toCredentials).result = .ok c := by
  have hload :=
    Profile.load_of_readText (s := { files := files, environment := env }) rfl h.readText
  rw [reload, result_credentials, Outcome.result_bind]
  change (during _ (Profile.load path _).2).bind _ = _ ↔ _
  rw [hload]
  cases (Profile.parse env.text? text).result with
  | error e => exact ⟨nofun, nofun⟩
  | ok p =>
    change during none (override _ p).toCredentials.result = _ ↔ p.toCredentials.result = _
    rw [override_of_source]
    cases p.toCredentials.result with
    | error e => exact ⟨nofun, nofun⟩
    | ok built => exact ⟨fun h => by cases h; rfl, fun h => by cases h; rfl⟩

/-- The steps of a login that succeeds. -/
theorem run_eq_ok {o : Options} {s s' : Session} {printed : String}
    (h : run o s = (s', .ok printed)) :
    ∃ s₁ s₂ c sealed, credentials o s = (s₁, .ok c) ∧ s₁.absorb c.seal = (s₂, .ok sealed) ∧
      saveTo o.save sealed s₂ = (s', .ok ()) ∧ printed = summary sealed := by
  unfold run at h
  split at h
  · cases h
  · next s₁ c hcredentials =>
    split at h
    · cases h
    · next s₂ sealed hseal =>
      split at h
      · cases h
      · next s₃ hsave =>
        cases h
        exact ⟨s₁, s₂, c, sealed, hcredentials, hseal, hsave, rfl⟩

theorem save_of_saveTo {path : Path} {sealed : SealedCredentials} {s s' : Session}
    (h : saveTo (some path) sealed s = (s', .ok ())) :
    (Profile.ofCredentials sealed.credentials).save path s = (s', .ok ()) := by
  unfold saveTo at h
  dsimp only at h
  cases hsave : (Profile.ofCredentials sealed.credentials).save path s with
  | mk after result =>
    rw [hsave] at h
    cases result with
    | error e => cases h
    | ok _ =>
      cases h
      rfl

/-- A login that saves its settings leaves the document of its credentials behind. -/
theorem holdsText_of_run {o : Options} {s s' : Session} {path : Path} {printed : String}
    (hsave : o.save = some path) (hrun : run o s = (s', .ok printed)) (hfiles : s.files.Valid)
    (hlog : ∀ log, s.logFile = some log → log.threshold.admits .info = true →
      s'.files.find path ≠ .ok (.file log.id)) :
    ∃ sealed : SealedCredentials, (credentials o s).2 = .ok sealed.credentials ∧
      printed = summary sealed ∧
      s'.files.HoldsText path (Profile.ofCredentials sealed.credentials).toText := by
  obtain ⟨s₁, s₂, c, sealed, hcredentials, hseal, hsaved, rfl⟩ := run_eq_ok hrun
  rw [hsave] at hsaved
  have hsealed : sealed.credentials = c :=
    Credentials.credentials_of_seal (congrArg Prod.snd hseal)
  have hlogged : s.Logged s₂ := by
    have habsorb := Session.Logged.absorb s₁ c.seal
    rw [hseal] at habsorb
    exact (credentials_eq_ok hcredentials).1.trans habsorb
  refine ⟨sealed, by rw [hcredentials, hsealed], rfl, ?_⟩
  refine Profile.holdsText_save (hlogged.valid hfiles) (save_of_saveTo hsaved) ?_
  rw [hlogged.logFile]
  exact hlog

/-- What a login saves is loaded again without its password, in a given
environment, just when the expansion of that environment changes none of the host,
the user name and the name of the application; and in every environment, just when
these hold no doubled dollar sign and no reference that may be expanded.  The
compression has to be read back from its text. -/
theorem reload_of_run_iff (o : Options) (s : Session) (path : Path) (printed : String)
    (hsave : o.save = some path) (hrun : (run o s).2 = .ok printed) (hfiles : s.files.Valid)
    (hlog : ∀ log, s.logFile = some log → log.threshold.admits .info = true →
      (run o s).1.files.find path ≠ .ok (.file log.id)) :
    ∃ sealed : SealedCredentials, (credentials o s).2 = .ok sealed.credentials ∧
      printed = summary sealed ∧
      (∀ env, reload path env (run o s).1.files = .ok (sealed.credentials.setPassword "") ↔
        Profile.CompressionKept sealed.credentials ∧
          ∀ text ∈ Profile.templates sealed.credentials,
            Template.expand false env.text? text = text) ∧
      ((∀ env, reload path env (run o s).1.files = .ok (sealed.credentials.setPassword "")) ↔
        Profile.CompressionKept sealed.credentials ∧
          ∀ text ∈ Profile.templates sealed.credentials, Template.isFixed text = true) := by
  obtain ⟨sealed, hcredentials, hprinted, hholds⟩ :=
    holdsText_of_run hsave (Prod.ext rfl hrun) hfiles hlog
  obtain ⟨_, p, hp⟩ := credentials_eq_ok (Prod.ext rfl hcredentials)
  have heach : ∀ env : Environment,
      reload path env (run o s).1.files = .ok (sealed.credentials.setPassword "") ↔
        Profile.CompressionKept sealed.credentials ∧
          ∀ text ∈ Profile.templates sealed.credentials,
            Template.expand false env.text? text = text := fun env =>
    (reload_eq_ok_iff hholds _).trans (Profile.parse_toCredentials_iff hp env.text?)
  refine ⟨sealed, hcredentials, hprinted, heach, ?_⟩
  constructor
  · intro h
    have hkept := fun env => (heach env).mp (h env)
    exact ⟨(hkept {}).1, fun text htext =>
      (Template.isFixed_iff text).mpr fun env => (hkept env).2 text htext⟩
  · rintro ⟨hcompression, hfixed⟩ env
    exact (heach env).mpr ⟨hcompression, fun text htext =>
      (Template.isFixed_iff text).mp (hfixed text htext) env⟩

/-- A login with a doubled dollar sign in the user name. -/
def twoDollars : Options where
  host := some "localhost"
  user := some "a$$b"
  save := some ⟨"p.yaml"⟩

/-- A user name with a doubled dollar sign does not come back in any environment. -/
theorem reload_of_run_two_dollars :
    ∃ sealed : SealedCredentials, (credentials twoDollars {}).2 = .ok sealed.credentials ∧
      sealed.credentials.user.username = "a$$b" ∧
      ∀ env, reload ⟨"p.yaml"⟩ env (run twoDollars {}).1.files ≠
        .ok (sealed.credentials.setPassword "") := by
  have hsucceeds : (run twoDollars {}).2.isOk = true := by decide +kernel
  have husername : (credentials twoDollars {}).2.map (·.user.username) = .ok "a$$b" := by
    decide +kernel
  cases hrun : (run twoDollars {}).2 with
  | error failure =>
    rw [hrun] at hsucceeds
    cases hsucceeds
  | ok printed =>
    obtain ⟨sealed, hsealed, _, heach, _⟩ :=
      reload_of_run_iff twoDollars {} ⟨"p.yaml"⟩ printed rfl hrun FileTree.valid_empty nofun
    rw [hsealed] at husername
    have hname : sealed.credentials.user.username = "a$$b" := Except.ok.inj husername
    refine ⟨sealed, hsealed, hname, fun env hreload => ?_⟩
    have hkept := ((heach env).mp hreload).2 "a$$b" (by simp [Profile.templates, hname])
    have hparse : Template.parse "a$$b".toList = [.char 'a', .dollar, .char 'b'] := by
      decide +kernel
    simp only [Template.expand, hparse, List.map_cons, List.map_nil, Template.Segment.value]
      at hkept
    exact absurd hkept (by decide)

end Login
end ServerLogin
