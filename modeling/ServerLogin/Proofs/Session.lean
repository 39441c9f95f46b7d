import ServerLogin.Proofs.Files.Write
import ServerLogin.Session

/-!
What logging leaves as it was.  A session that has only been logged to still has
its environment, its log file and, but for the content of that file, its files.
-/

namespace ServerLogin.Session

/-- A session comes from another one by logging. -/
def Logged (s s' : Session) : Prop := ∃ entries, s' = s.logAll entries

namespace Logged

variable {s s' s'' : Session}

theorem refl (s : Session) : s.Logged s := ⟨[], rfl⟩

theorem trans (h : s.Logged s') (h' : s'.Logged s'') : s.Logged s'' := by
  obtain ⟨first, rfl⟩ := h
  obtain ⟨second, rfl⟩ := h'
  exact ⟨first ++ second, List.foldl_append.symm⟩

theorem log (s : Session) (entry : Log.Entry) : s.Logged (s.log entry) := ⟨[entry], rfl⟩

theorem absorb {α : Type} (s : Session) (outcome : Outcome α) :
    s.Logged (s.absorb outcome).1 := ⟨outcome.entries, rfl⟩

/-- A property that one entry keeps is kept by logging. -/
theorem induction {motive : Session → Prop} (h : s.Logged s') (hs : motive s)
    (hlog : ∀ t entry, motive t → motive (t.log entry)) : motive s' := by
  obtain ⟨entries, rfl⟩ := h
  induction entries generalizing s with
  | nil => exact hs
  | cons entry entries ih => exact ih (hlog s entry hs)

theorem logFile (h : s.Logged s') : s'.logFile = s.logFile := by
  refine h.induction (motive := fun t => t.logFile = s.logFile) rfl fun t entry ht => ?_
  rw [← ht, Session.log]
  dsimp only
  split
  · rfl
  · split <;> rfl

theorem valid (h : s.Logged s') (hvalid : s.files.Valid) : s'.files.Valid := by
  refine h.induction (motive := fun t => t.files.Valid) hvalid fun t entry ht => ?_
  rw [Session.log]
  dsimp only
  split
  · exact ht
  · split
    · exact ht.append _ _
    · exact ht

end Logged

/-- Nothing among the files has changed but the content of the one that the log goes to. -/
structure FilesKept (s s' : Session) : Prop where
  nodes : s'.files.nodes = s.files.nodes
  workingDirectory : s'.files.workingDirectory = s.files.workingDirectory
  file : ∀ id, (∀ log, s.logFile = some log → log.id ≠ id) →
    s'.files.files[id]? = s.files.files[id]?

theorem FilesKept.refl (s : Session) : s.FilesKept s := ⟨rfl, rfl, fun _ _ => rfl⟩

theorem filesKept_log (s : Session) (entry : Log.Entry) : s.FilesKept (s.log entry) := by
  obtain ⟨files, environment, entries, logFile⟩ := s
  unfold Session.log
  cases logFile with
  | none => exact ⟨rfl, rfl, fun _ _ => rfl⟩
  | some log =>
    dsimp only
    split
    · refine ⟨rfl, rfl, fun id hid => ?_⟩
      have hne : log.id ≠ id := hid log rfl
      exact (Array.getElem?_modify ..).trans (if_neg hne)
    · exact ⟨rfl, rfl, fun _ _ => rfl⟩

theorem FilesKept.log {s t : Session} (h : s.FilesKept t) (hlog : t.logFile = s.logFile)
    (entry : Log.Entry) : s.FilesKept (t.log entry) := by
  have hentry := filesKept_log t entry
  refine ⟨hentry.nodes.trans h.nodes, hentry.workingDirectory.trans h.workingDirectory,
    fun id hid => ?_⟩
  exact (hentry.file id (by rw [hlog]; exact hid)).trans (h.file id hid)

theorem Logged.filesKept {s s' : Session} (h : s.Logged s') : s.FilesKept s' := by
  refine (h.induction (motive := fun t => s.Logged t ∧ s.FilesKept t) ⟨.refl s, .refl s⟩ ?_).2
  rintro t entry ⟨hlogged, hkept⟩
  exact ⟨hlogged.trans (.log t entry), hkept.log hlogged.logFile entry⟩

/-- Without a log file, logging leaves all files as they were. -/
theorem FilesKept.files_eq {s s' : Session} (h : s.FilesKept s') (hnone : s.logFile = none) :
    s'.files = s.files := by
  have hfiles : s'.files.files = s.files.files :=
    Array.ext_getElem? fun id => h.file id (by rw [hnone]; nofun)
  calc s'.files = ⟨s'.files.nodes, s'.files.files, s'.files.workingDirectory⟩ := rfl
    _ = ⟨s.files.nodes, s.files.files, s.files.workingDirectory⟩ := by
      rw [h.nodes, hfiles, h.workingDirectory]

/-- Logging leaves a file alone unless it is the log file and the entry is admitted. -/
theorem holdsText_log {s : Session} {path : Path} {text : String} (entry : Log.Entry)
    (h : s.files.HoldsText path text)
    (hlog : ∀ log, s.logFile = some log → log.threshold.admits entry.level = true →
      (s.log entry).files.find path ≠ .ok (.file log.id)) :
    (s.log entry).files.HoldsText path text := by
  obtain ⟨location, id, hleads, hcontent⟩ := h
  obtain ⟨files, environment, entries, logFile⟩ := s
  unfold log at hlog ⊢
  cases logFile with
  | none => exact ⟨location, id, hleads, hcontent⟩
  | some log =>
    dsimp only at hlog ⊢
    split
    · next hadmits =>
      rw [if_pos hadmits] at hlog
      have hleads : (files.append log.id entry.line.toUTF8).LeadsTo path location id :=
        hleads.withFiles _
      have hother : log.id ≠ id := by
        rintro rfl
        exact hlog log rfl hadmits hleads.find
      exact ⟨location, id, hleads, (FileTree.content?_append hother _).trans hcontent⟩
    · exact ⟨location, id, hleads, hcontent⟩

/-- Without a log file, logging changes nothing but the entries. -/
theorem log_of_none {s : Session} (h : s.logFile = none) (entry : Log.Entry) :
    s.log entry = { s with entries := s.entries ++ [entry] } := by
  obtain ⟨files, environment, entries, logFile⟩ := s
  cases h
  rfl

end ServerLogin.Session
