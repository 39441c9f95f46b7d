import ServerLogin.Profile.Storage
import ServerLogin.Proofs.Session

/-!
A stored document is found at its path, and loading a profile reads it there.
-/

namespace ServerLogin.Profile

theorem makeSurroundings_valid {tree : FileTree} (h : tree.Valid) (path : Path) :
    (makeSurroundings path tree).1.Valid := by
  unfold makeSurroundings
  split
  · exact h
  · exact h.makeDirectories _

/-- A document that is stored is found at its path. -/
theorem holdsText_store {text : String} {path : Path} {tree tree' : FileTree} (hvalid : tree.Valid)
    (h : store text path tree = (tree', .ok ())) : tree'.HoldsText path text := by
  have haround := makeSurroundings_valid hvalid path
  unfold store at h
  split at h
  · cases h
  · next around hmake =>
    rw [hmake] at haround
    split at h
    · cases h
    · next written hwrite =>
      obtain ⟨location, id, hleads, hcontent⟩ := FileTree.write_leadsTo haround hwrite
      split at h
      · cases h
      · next renamed hrename =>
        cases h
        obtain ⟨target, htarget, hfiles⟩ := FileTree.rename_leadsTo hleads hrename
        refine ⟨target, id, htarget, ?_⟩
        rw [FileTree.content?, hfiles]
        exact hcontent

theorem warnIfInsecure_logged (path : Path) (s : Session) : s.Logged (warnIfInsecure path s) := by
  unfold warnIfInsecure
  split
  · split
    · exact .refl s
    · exact .log s _
  · exact .refl s

theorem load_logged (path : Path) (s : Session) : s.Logged (load path s).1 := by
  have hwarn : s.Logged (warnIfInsecure path (s.log (loadingEntry path))) :=
    (Session.Logged.log s _).trans (warnIfInsecure_logged path _)
  unfold load
  dsimp only
  split
  · exact hwarn
  · exact hwarn.trans (.absorb _ _)

theorem warnIfInsecure_of_none {s : Session} (h : s.logFile = none) (path : Path) :
    ∃ entries, warnIfInsecure path s = { s with entries := entries } := by
  unfold warnIfInsecure
  split
  · split
    · exact ⟨s.entries, rfl⟩
    · exact ⟨_, Session.log_of_none h _⟩
  · exact ⟨s.entries, rfl⟩

theorem result_parse (lookup : String → Option String) (text : String) :
    (parse lookup text).result = match ofText text with
      | .ok p => .ok (p.expand lookup)
      | .error fault => .error (.document fault) := by
  unfold parse
  cases ofText text <;> rfl

/-- What loading reads at a path, once the entries about it are made. -/
def contents (path : Path) (s : Session) : Except FileFault String :=
  (warnIfInsecure path (s.log (loadingEntry path))).files.readText path

/-- Loading gives the profile in what it reads, in the environment of some session. -/
theorem result_load {path : Path} {s : Session} {text : String} (h : contents path s = .ok text) :
    ∃ env : Environment, (load path s).2 = (parse env.text? text).result := by
  refine ⟨(warnIfInsecure path (s.log (loadingEntry path))).environment, ?_⟩
  unfold load
  dsimp only
  rw [show FileTree.readText _ path = .ok text from h]
  rfl

/-- What loading a profile comes to when nothing is logged to a file. -/
theorem load_of_readText {path : Path} {text : String} {s : Session} (hlog : s.logFile = none)
    (hread : s.files.readText path = .ok text) :
    (load path s).2 = (parse s.environment.text? text).result := by
  have hfirst := Session.log_of_none hlog (loadingEntry path)
  obtain ⟨entries, hwarn⟩ := warnIfInsecure_of_none
    (s := { s with entries := s.entries ++ [loadingEntry path] }) hlog path
  rw [load, hfirst, hwarn]
  dsimp only
  rw [hread]
  rfl

/-- Whether saving succeeds depends on the files alone. -/
theorem result_save_congr {p : Profile} {path : Path} {s t : Session} (h : t.files = s.files) :
    (p.save path t).2 = (p.save path s).2 := by
  unfold save
  rw [h]
  obtain ⟨tree, fault | _⟩ := store p.toText path s.files <;> rfl

/-- A profile that is saved is found at its path, unless the entry about it goes to
the same file. -/
theorem holdsText_save {p : Profile} {path : Path} {s s' : Session} (hvalid : s.files.Valid)
    (h : save p path s = (s', .ok ()))
    (hlog : ∀ log, s.logFile = some log → log.threshold.admits .info = true →
      s'.files.find path ≠ .ok (.file log.id)) : s'.files.HoldsText path p.toText := by
  unfold save at h
  split at h
  · cases h
  · next tree hstore =>
    cases h
    exact Session.holdsText_log (savedEntry path) (holdsText_store hvalid hstore) hlog

end ServerLogin.Profile
