import ServerLogin.Proofs.CommandLine.LogOption
import ServerLogin.Proofs.Log.File
import ServerLogin.Proofs.Program

/-!
A run with a log file beside the run without it.  Both come to the same exit code, the same
output and the same files but for the log, unless the log goes to a file that the run reads or
writes on its way.
-/

namespace ServerLogin

open CommandLine FileTree

namespace Login

variable {o : Options} {s t : Session} {place : Location} {id : Nat} {level : Log.Threshold}

/-- Settings depend on nothing but the environment and what is read of a profile. -/
theorem settings_eq_ok_iff_of_contents {b : Base} (henvironment : t.environment = s.environment)
    (hread : ∀ path, b = .file path → ∀ text,
      Profile.contents path t = .ok text ↔ Profile.contents path s = .ok text) {p : Profile} :
    (settings b t).2 = .ok p ↔ (settings b s).2 = .ok p := by
  cases b with
  | arguments raw => exact .rfl
  | nothing => exact .rfl
  | file path =>
    have hduring : ∀ (doing : Option String) (result : Except LoginError Profile),
        during doing result = .ok p ↔ result = .ok p := by
      intro doing result
      cases result with
      | error e => exact ⟨nofun, nofun⟩
      | ok q => exact ⟨fun h => by cases h; rfl, fun h => by cases h; rfl⟩
    have hload : (Profile.load path t).2 = .ok p ↔ (Profile.load path s).2 = .ok p := by
      simp only [Profile.load_eq_ok_iff, henvironment, hread path rfl]
    exact (hduring _ _).trans (hload.trans (hduring _ _).symm)

theorem credentials_eq_ok_iff_of_contents (henvironment : t.environment = s.environment)
    (hread : ∀ path, base o s.environment = .file path → ∀ text,
      Profile.contents path t = .ok text ↔ Profile.contents path s = .ok text)
    {c : Credentials} : (credentials o t).2 = .ok c ↔ (credentials o s).2 = .ok c := by
  have hbind : ∀ (result : Except Failure Profile) (f : Profile → Except Failure Credentials),
      result.bind f = .ok c ↔ ∃ p, result = .ok p ∧ f p = .ok c := by
    intro result f
    cases result with
    | error e =>
      constructor
      · intro h
        cases h
      · rintro ⟨p, hp, _⟩
        cases hp
    | ok p => exact ⟨fun h => ⟨p, rfl, h⟩, fun ⟨q, hq, h⟩ => by cases hq; exact h⟩
  rw [result_credentials, result_credentials, henvironment, hbind, hbind]
  simp only [settings_eq_ok_iff_of_contents henvironment hread]

theorem logFile_saveTo (save : Option Path) (sealed : SealedCredentials) (s : Session) :
    (saveTo save sealed s).1.logFile = s.logFile := by
  cases save with
  | none => rfl
  | some path =>
    unfold saveTo Profile.save
    dsimp only
    split
    · rfl
    · exact (Session.Logged.log _ _).logFile

/-- Saving succeeds when storing the document does, and then there is an entry about it. -/
theorem saveTo_some (path : Path) (sealed : SealedCredentials) (s : Session) :
    let stored := Profile.store (Profile.ofCredentials sealed.credentials).toText path s.files
    ((saveTo (some path) sealed s).2 = .ok () ↔ stored.2 = .ok ()) ∧
      (stored.2 = .ok () → (saveTo (some path) sealed s).1 =
        ({ s with files := stored.1 } : Session).log (Profile.savedEntry path)) ∧
      (stored.2 ≠ .ok () → (saveTo (some path) sealed s).1 = { s with files := stored.1 }) := by
  intro stored
  have hstored : Profile.store (Profile.ofCredentials sealed.credentials).toText path s.files =
      stored := rfl
  unfold saveTo Profile.save
  dsimp only
  rw [hstored]
  obtain ⟨left, _ | _⟩ := stored
  · exact ⟨⟨nofun, nofun⟩, nofun, fun _ => rfl⟩
  · exact ⟨⟨fun _ => rfl, fun _ => rfl⟩, fun _ => rfl, fun h => absurd rfl h⟩

/-- What is saved beside the log is what is saved without it. -/
theorem saveTo_logging {save : Option Path} {sealed : SealedCredentials} (hs : s.logFile = none)
    (ht : t.logFile = some ⟨id, level⟩) (hvalid : s.files.Valid)
    (h : Logging place id s.files t.files)
    (hplace : (saveTo save sealed s).1.files.Undirected place)
    (htemporary : ∀ path, save = some path → ∀ spot,
      (saveTo save sealed s).1.files.Names (Profile.temporaryPath path) spot →
        t.files.node? spot = some (.file id) → level.admits .info = false) :
    ((saveTo save sealed t).2 = .ok () ↔ (saveTo save sealed s).2 = .ok ()) ∧
    ∀ spot, t.files.node? spot ≠ some (.file id) →
      (saveTo save sealed t).1.files.fileAt? spot = (saveTo save sealed s).1.files.fileAt? spot ∧
      ((saveTo save sealed t).2 ≠ .ok () →
        (saveTo save sealed t).1.files.node? spot ≠ some (.file id)) := by
  cases save with
  | none => exact ⟨.rfl, fun spot hspot => ⟨h.fileAt spot hspot, fun hfail => absurd rfl hfail⟩⟩
  | some path =>
    obtain ⟨hok, hsaved, hfailed⟩ := saveTo_some path sealed s
    obtain ⟨hok', hsaved', hfailed'⟩ := saveTo_some path sealed t
    have hfiles : (saveTo (some path) sealed s).1.files = (Profile.store
        (Profile.ofCredentials sealed.credentials).toText path s.files).1 := by
      by_cases hresult : (Profile.store
          (Profile.ofCredentials sealed.credentials).toText path s.files).2 = .ok ()
      · rw [hsaved hresult]
        exact (Session.filesKept_log _ _).files_eq hs
      · rw [hfailed hresult]
    rw [hfiles] at hplace htemporary ⊢
    obtain ⟨hsame, hstored⟩ := Profile.store_logging h hvalid hplace
    refine ⟨hok'.trans (hsame.trans hok.symm), fun spot hspot => ?_⟩
    obtain ⟨hcontent, hmoved⟩ := hstored spot hspot
    by_cases hresult : (Profile.store
        (Profile.ofCredentials sealed.credentials).toText path t.files).2 = .ok ()
    · refine ⟨?_, fun hfail => absurd (hok'.mpr hresult) hfail⟩
      rw [hsaved' hresult, Session.fileAt?_log, hcontent]
      intro log hlog hadmits hnode
      cases ht.symm.trans hlog
      obtain ⟨_, temporary, hname, hlogged⟩ := hmoved hnode
      have hquiet := htemporary path rfl temporary hname hlogged
      exact absurd (hadmits.symm.trans hquiet) nofun
    · rw [hfailed' hresult]
      refine ⟨hcontent, fun _ hnode => hresult ?_⟩
      exact hsame.mpr (hmoved hnode).1

/-- The session in which a login ends; a failure is logged. -/
def ended (o : Options) (s : Session) : Session :=
  match run o s with
  | (s, .ok _) => s
  | (s, .error failure) => s.log ⟨.error, .program, failure.message⟩

theorem ended_of_not_accepted (h : ∀ c, ¬Accepted o s c) : s.Logged (ended o s) := by
  obtain ⟨failure, hrun⟩ := run_of_not_accepted h
  unfold ended
  rw [hrun]
  exact (checked_logged o s).trans (.log _ _)

/-- Credentials that are accepted are saved, and that is all that is left to fail. -/
theorem ended_of_accepted {sealed : SealedCredentials} (h : Accepted o s sealed.credentials) :
    ((saveTo o.save sealed (checked o s)).2 = .ok () →
      (run o s).2 = .ok (summary sealed) ∧
        ended o s = (saveTo o.save sealed (checked o s)).1) ∧
    ((saveTo o.save sealed (checked o s)).2 ≠ .ok () →
      ∃ failure : Failure, (run o s).2 = .error failure ∧
        ended o s = (saveTo o.save sealed (checked o s)).1.log
          ⟨.error, .program, failure.message⟩) := by
  obtain ⟨other, hsame, hrun⟩ := run_of_accepted h
  have hsealed : other = sealed := by
    cases other
    cases sealed
    cases hsame
    rfl
  rw [hsealed] at hrun
  unfold ended
  rw [hrun]
  generalize saveTo o.save sealed (checked o s) = outcome
  obtain ⟨left, failure | _⟩ := outcome
  · exact ⟨nofun, fun _ => ⟨failure, rfl, rfl⟩⟩
  · exact ⟨fun _ => ⟨rfl, rfl⟩, fun hfail => absurd rfl hfail⟩

/-- Without a log the files in the end are those that saving leaves behind. -/
theorem files_ended {sealed : SealedCredentials} (hs : s.logFile = none)
    (h : Accepted o s sealed.credentials) :
    (ended o s).files = (saveTo o.save sealed (checked o s)).1.files := by
  obtain ⟨hok, hfail⟩ := ended_of_accepted h
  by_cases hsaved : (saveTo o.save sealed (checked o s)).2 = .ok ()
  · rw [(hok hsaved).2]
  · obtain ⟨failure, _, hend⟩ := hfail hsaved
    have hlogFile : (saveTo o.save sealed (checked o s)).1.logFile = none :=
      (logFile_saveTo ..).trans ((checked_logged o s).logFile.trans hs)
    rw [hend]
    exact (Session.filesKept_log _ _).files_eq hlogFile

/-- Credentials that are accepted with and without the log are saved alike. -/
theorem run_logging_of_accepted {sealed : SealedCredentials} (hs : s.logFile = none)
    (ht : t.logFile = some ⟨id, level⟩) (hvalid : s.files.Valid)
    (h : Logging place id s.files t.files) (haccepted : Accepted o s sealed.credentials)
    (haccepted' : Accepted o t sealed.credentials) (hplace : (ended o s).files.Undirected place)
    (htemporary : ∀ path, o.save = some path → ∀ spot,
      (ended o s).files.Names (Profile.temporaryPath path) spot →
        t.files.node? spot = some (.file id) → level.admits .info = false) :
    (∀ printed, (run o t).2 = .ok printed ↔ (run o s).2 = .ok printed) ∧
    ∀ spot, t.files.node? spot ≠ some (.file id) →
      (ended o t).files.fileAt? spot = (ended o s).files.fileAt? spot := by
  obtain ⟨hok, hfail⟩ := ended_of_accepted haccepted
  obtain ⟨hok', hfail'⟩ := ended_of_accepted haccepted'
  have hchecked := checked_logged o s
  have hchecked' := checked_logged o t
  have hs' : (checked o s).logFile = none := hchecked.logFile.trans hs
  have ht' : (checked o t).logFile = some ⟨id, level⟩ := hchecked'.logFile.trans ht
  have hfiles : (checked o s).files = s.files := hchecked.filesKept.files_eq hs
  have hnode := hchecked'.filesKept.node?
  have hended := files_ended hs haccepted
  have hlogging : Logging place id (checked o s).files (checked o t).files := by
    rw [hfiles]
    exact hchecked'.logging ht h
  rw [← hfiles] at hvalid
  rw [hended] at hplace htemporary
  obtain ⟨hsame, hcontents⟩ := saveTo_logging hs' ht' hvalid hlogging hplace
    fun path hpath spot hname hspot =>
      htemporary path hpath spot hname ((hnode spot).symm.trans hspot)
  simp only [hnode] at hcontents
  by_cases hsaved : (saveTo o.save sealed (checked o s)).2 = .ok ()
  · obtain ⟨hprinted, _⟩ := hok hsaved
    obtain ⟨hprinted', hend'⟩ := hok' (hsame.mpr hsaved)
    refine ⟨fun printed => by rw [hprinted, hprinted'], fun spot hspot => ?_⟩
    rw [hend', hended]
    exact (hcontents spot hspot).1
  · obtain ⟨failure, herror, _⟩ := hfail hsaved
    have hsaved' := fun h => hsaved (hsame.mp h)
    obtain ⟨failure', herror', hend'⟩ := hfail' hsaved'
    refine ⟨fun printed => ?_, fun spot hspot => ?_⟩
    · rw [herror, herror']
      exact ⟨nofun, nofun⟩
    · rw [hend', hended, Session.fileAt?_log]
      · exact (hcontents spot hspot).1
      · intro log hlog _
        cases ((logFile_saveTo ..).trans ht').symm.trans hlog
        exact (hcontents spot hspot).2 hsaved'

/-- Where no credentials are accepted with or without the log, nothing is saved. -/
theorem run_logging_of_not_accepted (hs : s.logFile = none) (ht : t.logFile = some ⟨id, level⟩)
    (h : Logging place id s.files t.files) (haccepted : ∀ c, ¬Accepted o s c)
    (haccepted' : ∀ c, ¬Accepted o t c) :
    (∀ printed, (run o t).2 = .ok printed ↔ (run o s).2 = .ok printed) ∧
    ∀ spot, t.files.node? spot ≠ some (.file id) →
      (ended o t).files.fileAt? spot = (ended o s).files.fileAt? spot := by
  obtain ⟨failure, hrun⟩ := run_of_not_accepted haccepted
  obtain ⟨failure', hrun'⟩ := run_of_not_accepted haccepted'
  have hended' := ended_of_not_accepted haccepted'
  refine ⟨fun printed => ?_, fun spot hspot => ?_⟩
  · rw [hrun, hrun']
    exact ⟨nofun, nofun⟩
  · rw [(ended_of_not_accepted haccepted).filesKept.files_eq hs]
    refine (hended'.logging ht h).fileAt spot ?_
    rw [hended'.filesKept.node?]
    exact hspot

/-- A login beside the log comes to the same as the login without it, and leaves the same
behind but for the log. -/
theorem run_logging (hs : s.logFile = none) (ht : t.logFile = some ⟨id, level⟩)
    (hvalid : s.files.Valid) (h : Logging place id s.files t.files)
    (henvironment : t.environment = s.environment)
    (hread : ∀ path, base o s.environment = .file path → ∀ text,
      Profile.contents path t = .ok text ↔ Profile.contents path s = .ok text)
    (hplace : (ended o s).files.Undirected place)
    (htemporary : ∀ path, o.save = some path → ∀ spot,
      (ended o s).files.Names (Profile.temporaryPath path) spot →
        t.files.node? spot = some (.file id) → level.admits .info = false) :
    (∀ printed, (run o t).2 = .ok printed ↔ (run o s).2 = .ok printed) ∧
    ∀ spot, t.files.node? spot ≠ some (.file id) →
      (ended o t).files.fileAt? spot = (ended o s).files.fileAt? spot := by
  have hcredentials : ∀ c, Accepted o t c ↔ Accepted o s c := fun c =>
    and_congr_left' (credentials_eq_ok_iff_of_contents henvironment hread)
  by_cases haccepted : ∃ c, Accepted o s c
  · obtain ⟨c, hc⟩ := haccepted
    obtain ⟨sealed, rfl, _⟩ := run_of_accepted hc
    exact run_logging_of_accepted hs ht hvalid h hc ((hcredentials _).mpr hc) hplace htemporary
  · rw [not_exists] at haccepted
    exact run_logging_of_not_accepted hs ht h haccepted fun c hc =>
      haccepted c ((hcredentials c).mp hc)

end Login

namespace Program

variable {o : Options} {s : Session} {file : Path} {level : Log.Threshold} {opened : FileTree}
  {place : Location} {id : Nat}

/-- What a run with these options leaves behind depends on the login alone. -/
theorem execute_eq (o : Options) (s : Session) :
    ((∀ printed, (Login.run o (started o s)).2 = .ok printed →
        (execute o s).code = 0 ∧ (execute o s).stdout = printed) ∧
      ∀ failure, (Login.run o (started o s)).2 = .error failure →
        (execute o s).code = 1 ∧ (execute o s).stdout = "") ∧
    (execute o s).files = (Login.ended o (started o s)).files := by
  unfold execute Login.ended
  dsimp only
  rw [← started]
  generalize Login.run o (started o s) = outcome
  obtain ⟨s', failure | printed⟩ := outcome
  · refine ⟨⟨fun _ h => ?_, fun _ _ => ⟨rfl, rfl⟩⟩, rfl⟩
    cases h
  · refine ⟨⟨fun _ h => ?_, fun _ h => ?_⟩, rfl⟩
    · cases h
      exact ⟨rfl, rfl⟩
    · cases h

/-- The log goes to no file that a run reads, writes on its way or makes a directory in place
of, unless nothing is written to it there. -/
structure Aside (o : Options) (s : Session) (level : Log.Threshold) (opened : FileTree) (id : Nat)
    (left : FileTree) : Prop where
  /-- The profile that is loaded is no log file, or one that was there and that nothing is
  written to before it is read. -/
  profile : ∀ path, Login.base o s.environment = .file path →
    opened.find path = .ok (.file id) →
      s.files.find path = .ok (.file id) ∧ level.admits .info = false ∧
        ∀ mode, opened.mode? path = some mode → mode &&& Profile.readableByOthers ≠ 0 →
          level.admits .warn = false
  /-- The file that a profile is saved to on its way is no log file, or the entry about that is
  not written. -/
  temporary : ∀ path, o.save = some path → ∀ spot,
    left.Names (Profile.temporaryPath path) spot → opened.node? spot = some (.file id) →
      level.admits .info = false
  /-- No directory is made where the log file is. -/
  directory : ∀ spot, opened.node? spot = some (.file id) → left.Undirected spot

/-- The session in which a login with a log file begins. -/
theorem started_logTo (hopen : s.files.openFile file = .ok (opened, id)) :
    started (o.logTo file level) s =
      ({ s with files := opened, logFile := some ⟨id, level⟩ } : Session).log
        ⟨.info, .program, "Starting " ++ name ++ " " ++ version⟩ := by
  have hlog : openLog (o.logTo file level) (threshold (o.logTo file level) s.environment) s =
      ({ s with files := opened, logFile := some ⟨id, level⟩ }, "") := by
    rw [openLog]
    dsimp only [Options.logTo]
    rw [hopen]
    rfl
  rw [started, hlog]

theorem logged_started (hopen : s.files.openFile file = .ok (opened, id)) :
    ({ s with files := opened, logFile := some ⟨id, level⟩ } : Session).Logged
      (started (o.logTo file level) s) := by
  rw [started_logTo hopen]
  exact .log _ _

theorem logged_of_none (ho : o.logFile = none) : s.Logged (started o s) := by
  have hopen : openLog o (threshold o s.environment) s = (s, "") := by
    rw [openLog, ho]
  rw [started, hopen]
  exact .log s _

/-- A log file that cannot be opened changes nothing. -/
theorem started_of_error (ho : o.logFile = none) {fault : FileFault}
    (hopen : s.files.openFile file = .error fault) :
    started (o.logTo file level) s = started o s := by
  have hlog : (openLog (o.logTo file level)
      (threshold (o.logTo file level) s.environment) s).1 = s := by
    rw [openLog]
    dsimp only [Options.logTo]
    rw [hopen]
  have hnone : openLog o (threshold o s.environment) s = (s, "") := by
    rw [openLog, ho]
  rw [started, started, hlog, hnone]

/-- A profile that the log is not written to is read as it is without the log. -/
theorem contents_started (hvalid : s.files.Valid)
    (hopen : s.files.openFile file = .ok (opened, id)) {left : FileTree}
    (haside : Aside o s level opened id left) {path : Path}
    (hbase : Login.base o s.environment = .file path) (text : String) :
    Profile.contents path (started (o.logTo file level) s) = .ok text ↔
      s.files.readText path = .ok text := by
  obtain ⟨place, hlogging⟩ := exists_logging hvalid hopen
  have hlogged : ({ s with files := opened, logFile := some ⟨id, level⟩ } : Session).Logged
      (started (o.logTo file level) s) := logged_started hopen
  -- The log may be the profile itself, if it was there and nothing has been written to it yet.
  by_cases hlog : opened.find path = .ok (.file id)
  · obtain ⟨hthere, hinfo, hwarn⟩ := haside.profile path hbase hlog
    obtain ⟨spot, _, hnode⟩ := find_eq_file_iff.mp hthere
    have hsame : opened = s.files := eq_of_openFile hvalid hopen hnode
    have hadmits : ∀ log, (started (o.logTo file level) s).logFile = some log →
        log.threshold = level := by
      intro log hlogFile
      cases hlogged.logFile.symm.trans hlogFile
      rfl
    have hfiles : (started (o.logTo file level) s).files = opened := by
      rw [started_logTo hopen]
      exact Session.files_log_of_not_admits fun log hlogFile => by cases hlogFile; exact hinfo
    rw [Profile.contents_of_not_admits, hfiles, hsame]
    · exact fun log hlogFile => hadmits log hlogFile ▸ hinfo
    · rw [hfiles]
      exact fun log hlogFile => hadmits log hlogFile ▸ hwarn
  · have hread := (hlogged.trans (.log _ (Profile.loadingEntry path))).trans
      (Profile.warnIfInsecure_logged path _)
    exact (hread.logging rfl hlogging).readText_iff fun h =>
      hlog (hread.filesKept.find_eq_file_iff.mp h)

/-- A login that begins with the log opened comes to the same as the login without it. -/
theorem login_logTo (ho : o.logFile = none) (hs : s.logFile = none) (hvalid : s.files.Valid)
    (hopen : s.files.openFile file = .ok (opened, id))
    (haside : Aside o s level opened id (execute o s).files) :
    (∀ printed, (Login.run o (started (o.logTo file level) s)).2 = .ok printed ↔
      (Login.run o (started o s)).2 = .ok printed) ∧
    ∀ spot, opened.node? spot ≠ some (.file id) →
      (Login.ended o (started (o.logTo file level) s)).files.fileAt? spot =
        (Login.ended o (started o s)).files.fileAt? spot := by
  obtain ⟨place, hlogging⟩ := exists_logging hvalid hopen
  have hlogged : ({ s with files := opened, logFile := some ⟨id, level⟩ } : Session).Logged
      (started (o.logTo file level) s) := logged_started hopen
  have hnode := hlogged.filesKept.node?
  obtain ⟨hnone, hfiles⟩ := files_started ho hs
  have henvironment : (started o s).environment = s.environment :=
    (logged_of_none ho).environment
  have hread : ∀ path, Login.base o (started o s).environment = .file path → ∀ text,
      Profile.contents path (started (o.logTo file level) s) = .ok text ↔
        Profile.contents path (started o s) = .ok text := by
    intro path hbase text
    rw [henvironment] at hbase
    rw [contents_started hvalid hopen haside hbase, Profile.contents_of_not_admits, hfiles]
    · exact fun log hlog => by cases hnone.symm.trans hlog
    · exact fun log hlog => by cases hnone.symm.trans hlog
  have hlogging' : Logging place id (started o s).files (started (o.logTo file level) s).files := by
    rw [hfiles]
    exact hlogged.logging rfl hlogging
  rw [(execute_eq o s).2] at haside
  rw [← hfiles] at hvalid
  obtain ⟨hprinted, hcontents⟩ := Login.run_logging hnone hlogged.logFile hvalid hlogging'
    (hlogged.environment.trans henvironment.symm) hread (haside.directory place hlogging.stands)
    fun path hpath spot hname hspot =>
      haside.temporary path hpath spot hname ((hnode spot).symm.trans hspot)
  simp only [hnode] at hcontents
  exact ⟨hprinted, hcontents⟩

/-- Two runs end alike when the logins print the same, or both fail. -/
theorem exit_congr (o o' : Options) (s t : Session)
    (h : ∀ printed, (Login.run o' (started o' t)).2 = .ok printed ↔
      (Login.run o (started o s)).2 = .ok printed) :
    (execute o' t).code = (execute o s).code ∧ (execute o' t).stdout = (execute o s).stdout := by
  obtain ⟨⟨hok, herror⟩, _⟩ := execute_eq o s
  obtain ⟨⟨hok', herror'⟩, _⟩ := execute_eq o' t
  cases hrun : (Login.run o (started o s)).2 with
  | ok printed =>
    obtain ⟨hcode, hstdout⟩ := hok printed hrun
    obtain ⟨hcode', hstdout'⟩ := hok' printed ((h printed).mpr hrun)
    exact ⟨hcode'.trans hcode.symm, hstdout'.trans hstdout.symm⟩
  | error failure =>
    obtain ⟨hcode, hstdout⟩ := herror failure hrun
    cases hrun' : (Login.run o' (started o' t)).2 with
    | ok printed => cases hrun.symm.trans ((h printed).mp hrun')
    | error failure' =>
      obtain ⟨hcode', hstdout'⟩ := herror' failure' hrun'
      exact ⟨hcode'.trans hcode.symm, hstdout'.trans hstdout.symm⟩

/-- A run with a log file comes to the same as the run without it. -/
theorem execute_logTo (ho : o.logFile = none) (hs : s.logFile = none) (hvalid : s.files.Valid)
    (haside : ∀ opened id, s.files.openFile file = .ok (opened, id) →
      Aside o s level opened id (execute o s).files) :
    (execute (o.logTo file level) s).code = (execute o s).code ∧
    (execute (o.logTo file level) s).stdout = (execute o s).stdout ∧
    ∀ spot, s.files.opensAt file spot = false →
      (execute (o.logTo file level) s).files.fileAt? spot = (execute o s).files.fileAt? spot := by
  have hlogin : (∀ printed, (Login.run o (started (o.logTo file level) s)).2 = .ok printed ↔
        (Login.run o (started o s)).2 = .ok printed) ∧
      ∀ spot, s.files.opensAt file spot = false →
        (Login.ended o (started (o.logTo file level) s)).files.fileAt? spot =
          (Login.ended o (started o s)).files.fileAt? spot := by
    cases hopen : s.files.openFile file with
    | error fault =>
      rw [started_of_error ho hopen]
      exact ⟨fun _ => .rfl, fun _ _ => rfl⟩
    | ok result =>
      obtain ⟨opened, id⟩ := result
      obtain ⟨hprinted, hcontents⟩ := login_logTo ho hs hvalid hopen (haside opened id hopen)
      refine ⟨hprinted, fun spot hspot => hcontents spot ?_⟩
      rw [opensAt, hopen] at hspot
      exact of_decide_eq_false hspot
  obtain ⟨hcode, hstdout⟩ := exit_congr o (o.logTo file level) s s hlogin.1
  refine ⟨hcode, hstdout, fun spot hspot => ?_⟩
  rw [(execute_eq o s).2, (execute_eq (o.logTo file level) s).2]
  exact hlogin.2 spot hspot

theorem usage_of_refuses {fault : UsageFault} (h : fault.Refuses) (files : FileTree) :
    usage files fault = ⟨2, "", "error: invalid command line\n", files⟩ := by
  cases fault with
  | help => exact absurd rfl h.1
  | version => exact absurd rfl h.2
  | _ => rfl

/-- What is said about a command line that is refused does not depend on the reason. -/
theorem usage_of_alike {α : Type} {R : α → α → Prop} {fault other : UsageFault}
    (h : Alike R (.error fault) (.error other)) (files : FileTree) :
    usage files other = usage files fault := by
  cases h with
  | same => rfl
  | refused h h' => rw [usage_of_refuses h, usage_of_refuses h']

/-- Options for the log change nothing about a run but the log.  Added to a command line that
has none they leave its exit code, its output and the content of every file but the log as they
were, unless the log goes to the profile that is loaded, to the temporary file of the one that
is saved, or to where a directory is made. -/
theorem run_with_log {arguments between logged : List String} {file : Path} (hpath : file.text ≠ "")
    (hfile : (LogOption.file file).Adds arguments between) {level : Log.Threshold}
    (hlevel : (LogOption.level level).Adds between logged)
    (hnoFile : Without "log-file" arguments) (hnoLevel : Without "log-level" arguments)
    (s : Session) (hs : s.logFile = none) (hvalid : s.files.Valid)
    (haside : ∀ o opened id, parse s.environment arguments = .ok o →
      s.files.openFile file = .ok (opened, id) →
        Aside o s level opened id (run arguments s).files) :
    (run logged s).code = (run arguments s).code ∧
    (run logged s).stdout = (run arguments s).stdout ∧
    ∀ spot, s.files.opensAt file spot = false →
      (run logged s).files.fileAt? spot = (run arguments s).files.fileAt? spot := by
  have hbetween := hfile.parse hpath hnoFile s.environment
  have hnames : (LogOption.level level).name ≠ (LogOption.file file).name := by
    change "log-level" ≠ "log-file"
    decide
  have hlogged := hlevel.parse trivial (hfile.without hnames hnoLevel) s.environment
  unfold run at haside ⊢
  generalize parse s.environment arguments = read at *
  generalize parse s.environment between = read' at *
  generalize parse s.environment logged = read'' at *
  cases read with
  | ok o =>
    obtain ⟨o', rfl, ho⟩ := hbetween.exists_ok
    obtain ⟨o'', rfl, ho'⟩ := hlogged.exists_ok
    have hsame : o'' = o.logTo file level := by
      rw [ho'.eq, ho.eq]
      rfl
    rw [hsame]
    exact execute_logTo ho.absent hs hvalid fun opened id => haside o opened id rfl
  | error fault =>
    obtain ⟨other, rfl⟩ := hbetween.exists_error
    obtain ⟨another, rfl⟩ := hlogged.exists_error
    have husage : usage s.files another = usage s.files fault :=
      (usage_of_alike hlogged _).trans (usage_of_alike hbetween _)
    dsimp only
    rw [husage]
    exact ⟨rfl, rfl, fun _ _ => rfl⟩

def profiled : Session where
  files :=
    { nodes := [(["p.yaml"], .file 0)]
      files := #[⟨"host: localhost\n".toUTF8, 0o600⟩] }

/-- A log of everything in a file of its own. -/
theorem run_with_log_apart :
    let arguments := ["--profile", "p.yaml", "--save=q.yaml"]
    let logged := run ["--log-level=trace", "--profile", "p.yaml", "--log-file", "run.log",
      "--save=q.yaml"] profiled
    logged.code = 0 ∧ logged.stdout = (run arguments profiled).stdout ∧
      logged.files.fileAt? ["q.yaml"] = (run arguments profiled).files.fileAt? ["q.yaml"] := by
  intro arguments logged
  have hvalid : profiled.files.Valid := valid_of_nodes (by decide)
  have hfile : (LogOption.file ⟨"run.log"⟩).Adds (["--profile", "p.yaml"] ++ ["--save=q.yaml"])
      (["--profile", "p.yaml"] ++ ["--log-file", "run.log"] ++ ["--save=q.yaml"]) :=
    .intro _ (by decide +kernel) (.apart (by decide +kernel))
  have hlevel : (LogOption.level .trace).Adds
      ([] ++ ["--profile", "p.yaml", "--log-file", "run.log", "--save=q.yaml"])
      ([] ++ ["--log-level=trace"] ++
        ["--profile", "p.yaml", "--log-file", "run.log", "--save=q.yaml"]) :=
    .intro _ (by decide +kernel) .attached
  have hparse : parse profiled.environment arguments =
      .ok { profile := some ⟨"p.yaml"⟩, save := some ⟨"q.yaml"⟩ } := by decide +kernel
  have hopen : profiled.files.openFile ⟨"run.log"⟩ =
      .ok (⟨[(["run.log"], .file 1), (["p.yaml"], .file 0)],
        #[⟨"host: localhost\n".toUTF8, 0o600⟩, ⟨ByteArray.empty, newFileMode⟩], []⟩, 1) := rfl
  have haside : ∀ o opened id, parse profiled.environment arguments = .ok o →
      profiled.files.openFile ⟨"run.log"⟩ = .ok (opened, id) →
        Aside o profiled .trace opened id (run arguments profiled).files := by
    intro o opened id ho hopened
    cases hparse.symm.trans ho
    cases hopen.symm.trans hopened
    have htemporary : (run arguments profiled).files.Names ⟨"q.yaml.tmp"⟩ ["q.yaml.tmp"] :=
      ⟨false, by decide +kernel⟩
    have hfree : (run arguments profiled).files.node? ["run.log"] = none := by decide +kernel
    refine ⟨fun path hpath hfind => ?_, fun path hpath spot hname hnode => ?_, fun spot hnode => ?_⟩
    · cases hpath
      cases hfind
    · cases hpath
      cases htemporary.unique hname
      cases hnode
    · have hspot : spot = ["run.log"] := by simpa using mem_nodes_of_file hnode
      subst hspot
      intro mode hdirectory
      cases hfree.symm.trans hdirectory
  obtain ⟨hcode, hstdout, hfiles⟩ := run_with_log (by decide) hfile hlevel (by decide +kernel)
    (by decide +kernel) profiled rfl hvalid haside
  refine ⟨hcode.trans (by decide +kernel), hstdout, hfiles ["q.yaml"] (by decide +kernel)⟩

/-- The log changes what it gets in the way of: a profile that it is written to before it is
loaded, a profile that is saved by way of the log file, and a directory that cannot be made
because the log file is there. -/
theorem logging_changes_outcome :
    ((run ["--profile=p.yaml"] profiled).code = 0 ∧
      (run ["--log-file=p.yaml", "--log-level=info", "--profile=p.yaml"] profiled).code = 1) ∧
    (FileTree.opensAt {} ⟨"p.yaml.tmp"⟩ ["p.yaml"] = false ∧
      (run ["--host=h", "--save=p.yaml"] {}).files.fileAt? ["p.yaml"] ≠
        (run ["--log-file=p.yaml.tmp", "--log-level=info", "--host=h", "--save=p.yaml"]
          {}).files.fileAt? ["p.yaml"]) ∧
    ((run ["--host=h", "--save=d/p.yaml"] {}).code = 0 ∧
      (run ["--log-file=d", "--log-level=info", "--host=h", "--save=d/p.yaml"] {}).code = 1) ∧
    (run ["--host=h"] {}).code = 0 ∧
      (run ["--log-file=", "--log-level=info", "--host=h"] {}).code = 2 := by
  decide +kernel

end Program
end ServerLogin
