import ServerLogin.Program
import ServerLogin.Proofs.Reload

/-!
What a whole run comes to.  A login succeeds when its credentials can be built, pass the
check and can be saved where that is asked for; then what is printed and what is saved is
theirs.  Otherwise nothing is printed, and unless it was the saving that failed, nothing is
changed.  `run_unlogged` says so of a login by itself; the program adds a log, which may go to a
file, and the exit code.
-/

namespace ServerLogin

open CommandLine

theorem exists_ok_of_isOk {ε α : Type} {x : Except ε α} (h : x.isOk = true) : ∃ a, x = .ok a := by
  cases x with
  | error e => cases h
  | ok a => exact ⟨a, rfl⟩

namespace Login

variable {o : Options} {s s' : Session}

/-- The credentials that a login builds, when they pass the check. -/
def Accepted (o : Options) (s : Session) (c : Credentials) : Prop :=
  (credentials o s).2 = .ok c ∧ c.validate = .ok ()

/-- The session once the credentials of a login are built and checked. -/
def checked (o : Options) (s : Session) : Session :=
  match credentials o s with
  | (s, .error _) => s
  | (s, .ok c) => (s.absorb c.seal).1

theorem credentials_logged (o : Options) (s : Session) : s.Logged (credentials o s).1 := by
  have hsettings := settings_logged (base o s.environment) s
  unfold credentials
  generalize settings (base o s.environment) s = outcome at hsettings
  obtain ⟨s₁, failure | profile⟩ := outcome
  · exact hsettings
  · exact hsettings.trans (.absorb s₁ _)

theorem checked_logged (o : Options) (s : Session) : s.Logged (checked o s) := by
  have hcredentials := credentials_logged o s
  unfold checked
  generalize credentials o s = outcome at hcredentials
  obtain ⟨s₁, failure | c⟩ := outcome
  · exact hcredentials
  · exact hcredentials.trans (.absorb s₁ _)

/-- Credentials that are accepted are saved and summed up. -/
theorem run_of_accepted {c : Credentials} (h : Accepted o s c) :
    ∃ sealed : SealedCredentials, sealed.credentials = c ∧
      run o s = match saveTo o.save sealed (checked o s) with
        | (s, .error failure) => (s, .error failure)
        | (s, .ok ()) => (s, .ok (summary sealed)) := by
  obtain ⟨hcredentials, hvalidate⟩ := h
  have hfault : c.fault? = none := Credentials.validate_eq_ok_iff_fault.mp hvalidate
  have hseal := Credentials.seal_of_valid hfault
  refine ⟨⟨c, hfault⟩, rfl, ?_⟩
  unfold run checked
  generalize credentials o s = outcome at hcredentials
  obtain ⟨s₁, result⟩ := outcome
  cases hcredentials
  dsimp only [Session.absorb]
  generalize c.seal.result = result at hseal ⊢
  cases hseal
  rfl

/-- Without credentials that are accepted, a login fails and nothing more happens. -/
theorem run_of_not_accepted (h : ∀ c, ¬Accepted o s c) :
    ∃ failure, run o s = (checked o s, .error failure) := by
  unfold Accepted at h
  unfold run checked
  generalize credentials o s = outcome at h
  obtain ⟨s₁, failure | c⟩ := outcome
  · exact ⟨failure, rfl⟩
  · obtain ⟨fault, hfault⟩ := Option.ne_none_iff_exists'.mp fun hvalid =>
      h c ⟨rfl, Credentials.validate_eq_ok_iff_fault.mpr hvalid⟩
    have hseal := Credentials.seal_of_fault hfault
    refine ⟨⟨none, .invalidSetting fault⟩, ?_⟩
    dsimp only [Session.absorb]
    generalize c.seal.result = result at hseal ⊢
    cases hseal
    rfl

theorem saveTo_eq_ok_iff {path : Option Path} {sealed : SealedCredentials} {s : Session} :
    (saveTo path sealed s).2 = .ok () ↔ ∀ target, path = some target →
      ((Profile.ofCredentials sealed.credentials).save target s).2 = .ok () := by
  cases path with
  | none => exact ⟨nofun, fun _ => rfl⟩
  | some target =>
    have hsave : (saveTo (some target) sealed s).2 = .ok () ↔
        ((Profile.ofCredentials sealed.credentials).save target s).2 = .ok () := by
      unfold saveTo
      dsimp only
      cases ((Profile.ofCredentials sealed.credentials).save target s).2 with
      | error e => exact ⟨nofun, nofun⟩
      | ok _ => exact ⟨fun _ => rfl, fun _ => rfl⟩
    rw [hsave]
    constructor
    · intro h other hother
      cases hother
      exact h
    · exact fun h => h target rfl

/-- A login succeeds when its credentials are accepted and can be saved where they are to be. -/
theorem run_isOk_iff : (∃ printed, (run o s).2 = .ok printed) ↔ ∃ c, Accepted o s c ∧
    ∀ path, o.save = some path →
      ((Profile.ofCredentials c).save path (checked o s)).2 = .ok () := by
  by_cases haccepted : ∃ c, Accepted o s c
  · obtain ⟨c, hc⟩ := haccepted
    obtain ⟨sealed, rfl, hrun⟩ := run_of_accepted hc
    have hunique : ∀ d, Accepted o s d → d = sealed.credentials :=
      fun d hd => Except.ok.inj (hd.1.symm.trans hc.1)
    have hsaved : (saveTo o.save sealed (checked o s)).2 = .ok () ↔ ∀ path, o.save = some path →
        ((Profile.ofCredentials sealed.credentials).save path (checked o s)).2 = .ok () :=
      saveTo_eq_ok_iff
    rw [hrun]
    generalize saveTo o.save sealed (checked o s) = outcome at hsaved
    obtain ⟨s₂, failure | _⟩ := outcome
    · refine ⟨nofun, ?_⟩
      rintro ⟨d, hd, hsave⟩
      rw [hunique d hd] at hsave
      cases hsaved.mpr hsave
    · exact ⟨fun _ => ⟨_, hc, hsaved.mp rfl⟩, fun _ => ⟨_, rfl⟩⟩
  · have hnone : ∀ c, ¬Accepted o s c := fun c hc => haccepted ⟨c, hc⟩
    obtain ⟨failure, hrun⟩ := run_of_not_accepted hnone
    rw [hrun]
    exact ⟨nofun, fun h => absurd h.choose_spec.1 (hnone _)⟩

/-- A login that succeeds sums up credentials that are accepted. -/
theorem accepted_of_run {printed : String} (h : (run o s).2 = .ok printed) :
    ∃ sealed : SealedCredentials, Accepted o s sealed.credentials ∧ printed = summary sealed := by
  obtain ⟨s₁, s₂, c, sealed, hcredentials, hseal, _, rfl⟩ := run_eq_ok (Prod.ext rfl h)
  have hsealed : sealed.credentials = c :=
    Credentials.credentials_of_seal (congrArg Prod.snd hseal)
  exact ⟨sealed, ⟨by rw [hcredentials, hsealed],
    Credentials.validate_eq_ok_iff_fault.mpr sealed.valid⟩, rfl⟩

/-- What a login that succeeds prints and saves comes from the same credentials, which are within
the limits.  The entry about saving must not go to the file that is saved. -/
theorem exists_sealed_of_run (hvalid : s.files.Valid) {printed : String}
    (h : (run o s).2 = .ok printed) :
    ∃ sealed : SealedCredentials, (credentials o s).2 = .ok sealed.credentials ∧
      printed = summary sealed ∧
      (∃ q, sealed.credentials.compression.value? = some q ∧ 0 ≤ q ∧ q ≤ 1) ∧
      defaultGroup ≤ sealed.credentials.groupId ∧
      ∀ path, o.save = some path →
        (∀ log, s.logFile = some log → log.threshold.admits .info = true →
          (run o s).1.files.find path ≠ .ok (.file log.id)) →
        (run o s).1.files.HoldsText path (Profile.ofCredentials sealed.credentials).toText := by
  obtain ⟨sealed, ⟨hcredentials, hvalidate⟩, hsummary⟩ := accepted_of_run h
  obtain ⟨hcompression, hgroup⟩ := (Credentials.validate_eq_ok_iff _).mp hvalidate
  refine ⟨sealed, hcredentials, hsummary, hcompression, hgroup, fun path hsave hlog => ?_⟩
  obtain ⟨saved, hsaved, _, hholds⟩ := holdsText_of_run hsave (Prod.ext rfl h) hvalid hlog
  have hsame : saved.credentials = sealed.credentials :=
    Except.ok.inj (hsaved.symm.trans hcredentials)
  rw [← hsame]
  exact hholds

/-- Without credentials that are accepted, no file is changed but by the log. -/
theorem filesKept_of_not_accepted (h : ∀ c, ¬Accepted o s c) : s.FilesKept (run o s).1 := by
  obtain ⟨failure, hrun⟩ := run_of_not_accepted h
  rw [hrun]
  exact (checked_logged o s).filesKept

/-- A login that logs to no file is all or nothing.  It succeeds exactly when its credentials are
accepted and can be saved, where they are to be, among the files as they are; then it prints
their summary and saves their document.  Without credentials that are accepted it changes no
file. -/
theorem run_unlogged (hvalid : s.files.Valid) (hlog : s.logFile = none) :
    ((∃ printed, (run o s).2 = .ok printed) ↔ ∃ c, Accepted o s c ∧
      ∀ path, o.save = some path → ((Profile.ofCredentials c).save path s).2 = .ok ()) ∧
    (∀ printed, (run o s).2 = .ok printed → ∃ sealed : SealedCredentials,
      Accepted o s sealed.credentials ∧ printed = summary sealed ∧
      ∀ path, o.save = some path →
        (run o s).1.files.HoldsText path (Profile.ofCredentials sealed.credentials).toText) ∧
    ((∀ c, ¬Accepted o s c) → (run o s).1.files = s.files) := by
  have hfiles : (checked o s).files = s.files := (checked_logged o s).filesKept.files_eq hlog
  refine ⟨?_, fun printed hprinted => ?_, fun hnone =>
    (filesKept_of_not_accepted hnone).files_eq hlog⟩
  · rw [run_isOk_iff]
    simp only [Profile.result_save_congr hfiles]
  · obtain ⟨sealed, hcredentials, hsummary, _, _, hsaved⟩ := exists_sealed_of_run hvalid hprinted
    refine ⟨sealed, ⟨hcredentials, Credentials.validate_eq_ok_iff_fault.mpr sealed.valid⟩,
      hsummary, fun path hsave => hsaved path hsave fun log hsome => ?_⟩
    rw [hlog] at hsome
    cases hsome

end Login

namespace Program

/-- The session in which a login begins: the log is open and the start is logged. -/
def started (o : Options) (s : Session) : Session :=
  (openLog o (threshold o s.environment) s).1.log
    ⟨.info, .program, "Starting " ++ name ++ " " ++ version⟩

/-- The exit of a program that has read its command line follows the outcome of the login. -/
theorem run_of_parse {o : Options} {arguments : List String} {s : Session}
    (h : parse s.environment arguments = .ok o) :
    (∀ printed, (Login.run o (started o s)).2 = .ok printed →
      (run arguments s).code = 0 ∧ (run arguments s).stdout = printed ∧
        (run arguments s).files = (Login.run o (started o s)).1.files) ∧
    ∀ failure, (Login.run o (started o s)).2 = .error failure →
      (run arguments s).code = 1 ∧ (run arguments s).stdout = "" ∧
        (run arguments s).files = ((Login.run o (started o s)).1.log
          ⟨.error, .program, failure.message⟩).files := by
  have hrun : run arguments s = execute o s := by
    rw [run, h]
  rw [hrun]
  dsimp only [execute]
  rw [← started]
  generalize Login.run o (started o s) = outcome
  obtain ⟨s', failure | printed⟩ := outcome
  · refine ⟨nofun, fun _ hfailure => ?_⟩
    cases hfailure
    exact ⟨rfl, rfl, rfl⟩
  · refine ⟨fun _ hprinted => ?_, nofun⟩
    cases hprinted
    exact ⟨rfl, rfl, rfl⟩

/-- Without a log file, the start of a login changes no file. -/
theorem files_started {o : Options} {s : Session} (ho : o.logFile = none)
    (hs : s.logFile = none) : (started o s).logFile = none ∧ (started o s).files = s.files := by
  have hopen : openLog o (threshold o s.environment) s = (s, "") := by
    rw [openLog, ho]
  have hlogged := Session.Logged.log s ⟨.info, .program, "Starting " ++ name ++ " " ++ version⟩
  rw [started, hopen]
  exact ⟨hlogged.logFile.trans hs, hlogged.filesKept.files_eq hs⟩

/-- A run of the program is all or nothing.  A login succeeds exactly when its credentials can
be built, pass the check and can be saved where they are to be.  Then the summary that it
prints is theirs, and so is the document that it saves, unless the log goes to the same file;
their compression lies between zero and one, and their group is none below the default one.
Without credentials that pass the check, no file is changed but by the log.  The program
prints nothing but the summary, and its exit code tells whether there is one. -/
theorem all_or_nothing (o : Options) (s : Session) (hvalid : s.files.Valid) :
    ((∃ printed, (Login.run o s).2 = .ok printed) ↔ ∃ c, Login.Accepted o s c ∧
      ∀ path, o.save = some path →
        ((Profile.ofCredentials c).save path (Login.checked o s)).2 = .ok ()) ∧
    (∀ printed, (Login.run o s).2 = .ok printed → ∃ sealed : SealedCredentials,
      (Login.credentials o s).2 = .ok sealed.credentials ∧ printed = Login.summary sealed ∧
      (∃ q, sealed.credentials.compression.value? = some q ∧ 0 ≤ q ∧ q ≤ 1) ∧
      defaultGroup ≤ sealed.credentials.groupId ∧
      ∀ path, o.save = some path →
        (∀ log, s.logFile = some log → log.threshold.admits .info = true →
          (Login.run o s).1.files.find path ≠ .ok (.file log.id)) →
        (Login.run o s).1.files.HoldsText path
          (Profile.ofCredentials sealed.credentials).toText) ∧
    (s.Logged (Login.checked o s) ∧ ((∀ c, ¬Login.Accepted o s c) →
      s.FilesKept (Login.run o s).1 ∧
      (s.logFile = none → (Login.run o s).1.files = s.files))) ∧
    (∀ arguments, parse s.environment arguments = .ok o →
      (∀ printed, (Login.run o (started o s)).2 = .ok printed →
        (run arguments s).code = 0 ∧ (run arguments s).stdout = printed ∧
          (run arguments s).files = (Login.run o (started o s)).1.files) ∧
      (∀ failure, (Login.run o (started o s)).2 = .error failure →
        (run arguments s).code = 1 ∧ (run arguments s).stdout = "") ∧
      (o.logFile = none → s.logFile = none → (∀ c, ¬Login.Accepted o (started o s) c) →
        (run arguments s).files = s.files)) := by
  refine ⟨Login.run_isOk_iff, fun _ => Login.exists_sealed_of_run hvalid,
    ⟨Login.checked_logged o s, fun hnone => ?_⟩, ?_⟩
  · have hkept := Login.filesKept_of_not_accepted hnone
    exact ⟨hkept, hkept.files_eq⟩
  · intro arguments hparse
    obtain ⟨hok, herror⟩ := run_of_parse hparse
    refine ⟨hok, fun failure hfailure => ⟨(herror failure hfailure).1, (herror failure hfailure).2.1⟩,
      fun ho hs hnone => ?_⟩
    obtain ⟨hlog, hfiles⟩ := files_started ho hs
    obtain ⟨failure, hrun⟩ := Login.run_of_not_accepted hnone
    have hlogged : (started o s).Logged ((Login.run o (started o s)).1.log
        ⟨.error, .program, failure.message⟩) := by
      rw [hrun]
      exact (Login.checked_logged o _).trans (.log _ _)
    rw [(herror failure (by rw [hrun])).2.2, hlogged.filesKept.files_eq hlog, hfiles]

/-- A login that saves its settings. -/
def localLogin : Options where
  host := some "localhost"
  user := some "u"
  save := some ⟨"p.yaml"⟩

/-- It prints and saves the same credentials. -/
theorem all_or_nothing_local :
    FileTree.Valid {} ∧ ∃ sealed : SealedCredentials,
      (Login.credentials localLogin {}).2 = .ok sealed.credentials ∧
      (Login.run localLogin {}).2 = .ok (Login.summary sealed) ∧
      (Login.run localLogin {}).1.files.HoldsText ⟨"p.yaml"⟩
        (Profile.ofCredentials sealed.credentials).toText ∧
      (run ["--host=localhost", "--user=u", "--save=p.yaml"] {}).code = 0 := by
  obtain ⟨_, hprinted, _, hexit⟩ := all_or_nothing localLogin {} FileTree.valid_empty
  have hparse : parse {} ["--host=localhost", "--user=u", "--save=p.yaml"] = .ok localLogin := by
    decide +kernel
  have hlogin : (Login.run localLogin {}).2.isOk = true := by decide +kernel
  have hstarted : (Login.run localLogin (started localLogin {})).2.isOk = true := by
    decide +kernel
  obtain ⟨printed, hrun⟩ := exists_ok_of_isOk hlogin
  obtain ⟨output, houtput⟩ := exists_ok_of_isOk hstarted
  obtain ⟨sealed, hcredentials, rfl, _, _, hsaved⟩ := hprinted printed hrun
  exact ⟨FileTree.valid_empty, sealed, hcredentials, hrun, hsaved ⟨"p.yaml"⟩ rfl nofun,
    ((hexit _ hparse).1 output houtput).1⟩

end Program
end ServerLogin
