import ServerLogin.Program
import ServerLogin.Proofs.Profile.Alike
import ServerLogin.Proofs.Profile.Storage

/-!
The log file among the other files.  Opening it may put one new file in the tree, and entries
are added to its end; so what is read elsewhere is what was there, and what is saved elsewhere
is what would be saved without it.
-/

namespace ServerLogin

namespace FileTree

variable {tree logged opened : FileTree} {path : Path} {place spot other : Location}
  {id : Nat} {text : String}

/-- Whether the file that is opened at the end of a path stands at a place, under that name or
another. -/
def opensAt (tree : FileTree) (path : Path) (spot : Location) : Bool :=
  match tree.openFile path with
  | .ok (opened, id) => opened.node? spot = some (.file id)
  | .error _ => false

/-- A tree in which the log has been opened and perhaps been written to. -/
structure Logging (place : Location) (id : Nat) (tree logged : FileTree) : Prop where
  alike : Alike place tree logged
  stands : logged.node? place = some (.file id)
  valid : logged.Valid
  sameFile : ∀ spot other, logged.SameFile spot other ↔ tree.SameFile spot other
  fileAt : ∀ spot, logged.node? spot ≠ some (.file id) → logged.fileAt? spot = tree.fileAt? spot

/-- A file that had a name before is not a new one. -/
theorem eq_of_openFile (hvalid : tree.Valid) (h : tree.openFile path = .ok (opened, id))
    (hnode : tree.node? spot = some (.file id)) : opened = tree := by
  obtain ⟨_, _, ⟨_, rfl⟩ | ⟨_, rfl, _⟩⟩ := openFile_eq_ok h
  · rfl
  · exact absurd (hvalid spot _ hnode) (Nat.lt_irrefl _)

theorem sameFile_openFile_iff (hvalid : tree.Valid) (h : tree.openFile path = .ok (opened, id)) :
    opened.SameFile spot other ↔ tree.SameFile spot other := by
  obtain ⟨place, _, ⟨_, rfl⟩ | ⟨hnone, rfl, rfl⟩⟩ := openFile_eq_ok h
  · exact .rfl
  · have hput : ∀ spot number, number ≠ tree.files.size →
        ((tree.put place (.file tree.files.size)).node? spot = some (.file number) ↔
          tree.node? spot = some (.file number)) := by
      intro spot number hnumber
      rw [node?_put]
      split
      · next hspot =>
        rw [hspot.1, hnone]
        exact ⟨fun heq => absurd (Node.file.inj (Option.some.inj heq)).symm hnumber, nofun⟩
      · exact .rfl
    have hnew : ∀ spot, (tree.put place (.file tree.files.size)).node? spot =
        some (.file tree.files.size) → spot = place := by
      intro spot hspot
      by_cases heq : spot = place
      · exact heq
      · rw [node?_put, if_neg fun h => heq h.1] at hspot
        exact absurd (hvalid spot _ hspot) (Nat.lt_irrefl _)
    constructor
    · rintro (heq | ⟨number, hspot, hother⟩)
      · exact .inl heq
      · by_cases hnumber : number = tree.files.size
        · subst hnumber
          exact .inl ((hnew spot hspot).trans (hnew other hother).symm)
        · exact .inr ⟨number, (hput spot number hnumber).mp hspot,
            (hput other number hnumber).mp hother⟩
    · rintro (heq | ⟨number, hspot, hother⟩)
      · exact .inl heq
      · have hnumber : number ≠ tree.files.size := Nat.ne_of_lt (hvalid spot number hspot)
        exact .inr ⟨number, (hput spot number hnumber).mpr hspot,
          (hput other number hnumber).mpr hother⟩

/-- Opening the log leaves everything else as it was. -/
theorem exists_logging (hvalid : tree.Valid) (h : tree.openFile path = .ok (opened, id)) :
    ∃ place, Logging place id tree opened := by
  obtain ⟨place, hopened⟩ := exists_opened hvalid h
  refine ⟨place, ⟨hopened.keeps, hopened.kept, fun spot hspot => ?_⟩, hopened.stands,
    hvalid.openFile h, fun _ _ => sameFile_openFile_iff hvalid h, fun spot hspot => ?_⟩
  · rw [hopened.node spot hspot]
  · refine hopened.fileAt spot ?_
    rintro rfl
    exact hspot hopened.stands

/-- Adding to the log leaves everything else as it was, too. -/
theorem Logging.of_kept (h : Logging place id tree opened) (hnodes : logged.nodes = opened.nodes)
    (hdirectory : logged.workingDirectory = opened.workingDirectory)
    (hfiles : ∀ number, number ≠ id → logged.files[number]? = opened.files[number]?)
    (hvalid : logged.Valid) : Logging place id tree logged := by
  have hnode : ∀ spot, logged.node? spot = opened.node? spot := by
    intro spot
    rw [node?, node?, hnodes]
  refine ⟨⟨h.alike.keeps.trans ⟨hdirectory, ?_⟩, .trans ⟨hdirectory.symm, ?_⟩ h.alike.kept, ?_⟩,
    ?_, hvalid, ?_, ?_⟩
  · exact fun spot mode hspot => (hnode spot).trans hspot
  · exact fun spot mode hspot => (hnode spot).symm.trans hspot
  · intro spot hspot
    rw [hnode]
    exact h.alike.vacant spot hspot
  · exact (hnode place).trans h.stands
  · intro spot other
    simp only [SameFile, hnode]
    exact h.sameFile spot other
  · intro spot hspot
    rw [hnode] at hspot
    rw [← h.fileAt spot hspot, fileAt?, fileAt?, hnode]
    split
    · next number hnumber =>
      have hne : number ≠ id := by
        rintro rfl
        exact hspot hnumber
      rw [content?, content?, hfiles number hne]
    · rfl

/-- A path leads to a place, and no slash asks for a directory there. -/
def Arrives (tree : FileTree) (path : Path) (spot : Location) : Prop :=
  tree.locate path = .ok (.directory spot) ∨ tree.locate path = .ok (.name spot false)

theorem Keeps.arrives (h : tree.Keeps logged) (harrives : tree.Arrives path spot) :
    logged.Arrives path spot := harrives.imp h.locate h.locate

theorem find_eq_file_iff : tree.find path = .ok (.file id) ↔
    ∃ spot, tree.Arrives path spot ∧ tree.node? spot = some (.file id) := by
  constructor
  · intro h
    unfold find at h
    split at h
    · cases h
    · next spot hlocate =>
      split at h
      · next hnode =>
        cases h
        exact ⟨spot, .inl hlocate, hnode⟩
      · cases h
    · next spot slash hlocate =>
      split at h
      · cases h
      · next hnode =>
        split at h
        · cases h
        · next hslash =>
          rw [Bool.not_eq_true] at hslash
          cases h
          subst hslash
          exact ⟨spot, .inr hlocate, hnode⟩
      · next hfile _ =>
        cases h
        exact absurd rfl (hfile id)
  · rintro ⟨spot, hlocate | hlocate, hnode⟩
    · rw [find, hlocate]
      dsimp only
      rw [hnode]
    · exact LeadsTo.find ⟨hlocate, hnode⟩

theorem toUTF8_of_fromUTF8? {content : ByteArray} (h : String.fromUTF8? content = some text) :
    text.toUTF8 = content := by
  unfold String.fromUTF8? at h
  split at h
  · cases h
    rfl
  · cases h

theorem read_eq_ok_iff {content : ByteArray} : tree.read path = .ok content ↔
    ∃ spot, tree.Arrives path spot ∧ tree.fileAt? spot = some content := by
  constructor
  · intro h
    unfold read at h
    split at h
    · cases h
    · cases h
    · next id hfind =>
      obtain ⟨spot, hspot, hnode⟩ := find_eq_file_iff.mp hfind
      split at h
      · next file hfile =>
        cases h
        refine ⟨spot, hspot, ?_⟩
        rw [fileAt?_of_file hnode, content?, hfile]
        rfl
      · cases h
  · rintro ⟨spot, hspot, hcontent⟩
    unfold fileAt? at hcontent
    split at hcontent
    · next id hnode =>
      obtain ⟨file, hfile, rfl⟩ := Option.map_eq_some_iff.mp hcontent
      rw [read, find_eq_file_iff.mpr ⟨spot, hspot, hnode⟩]
      dsimp only
      rw [hfile]
    · cases hcontent

/-- A text is read where a path leads to a file that holds it. -/
theorem readText_eq_ok_iff : tree.readText path = .ok text ↔
    ∃ spot, tree.Arrives path spot ∧ tree.fileAt? spot = some text.toUTF8 := by
  unfold readText
  constructor
  · intro h
    split at h
    · cases h
    · next content hcontent =>
      split at h
      · next htext =>
        cases h
        rw [toUTF8_of_fromUTF8? htext]
        exact read_eq_ok_iff.mp hcontent
      · cases h
  · intro h
    rw [read_eq_ok_iff.mpr h]
    dsimp only
    rw [fromUTF8?_toUTF8]

/-- Behind a path that does not lead to the log, what is read is what was there. -/
theorem Logging.readText_iff (h : Logging place id tree logged)
    (hpath : logged.find path ≠ .ok (.file id)) :
    logged.readText path = .ok text ↔ tree.readText path = .ok text := by
  have hother : ∀ spot, logged.Arrives path spot → logged.fileAt? spot = tree.fileAt? spot :=
    fun spot hspot =>
      h.fileAt spot fun hnode => hpath (find_eq_file_iff.mpr ⟨spot, hspot, hnode⟩)
  rw [readText_eq_ok_iff, readText_eq_ok_iff]
  constructor
  · rintro ⟨spot, hspot, hcontent⟩
    rw [hother spot hspot] at hcontent
    exact ⟨spot, h.alike.kept.arrives hspot, hcontent⟩
  · rintro ⟨spot, hspot, hcontent⟩
    have hspot' := h.alike.keeps.arrives hspot
    rw [← hother spot hspot'] at hcontent
    exact ⟨spot, hspot', hcontent⟩

theorem fileAt?_append_of_ne (h : tree.node? spot ≠ some (.file id)) (content : ByteArray) :
    (tree.append id content).fileAt? spot = tree.fileAt? spot := by
  have hnode : (tree.append id content).node? spot = tree.node? spot := rfl
  rw [fileAt?, fileAt?, hnode]
  split
  · next number hnumber =>
    have hne : id ≠ number := by
      rintro rfl
      exact h hnumber
    exact content?_append hne content
  · rfl

end FileTree

namespace Session

open FileTree

variable {s s' : Session} {spot place : Location} {id : Nat} {level : Log.Threshold}

theorem Logged.environment (h : s.Logged s') : s'.environment = s.environment := by
  refine h.induction (motive := fun t => t.environment = s.environment) rfl fun t entry ht => ?_
  rw [← ht, Session.log]
  dsimp only
  split
  · rfl
  · split <;> rfl

/-- An entry that is not admitted changes no file. -/
theorem files_log_of_not_admits {entry : Log.Entry}
    (h : ∀ log, s.logFile = some log → log.threshold.admits entry.level = false) :
    (s.log entry).files = s.files := by
  unfold Session.log
  dsimp only
  split
  · rfl
  · next log hlog =>
    rw [h log hlog]
    rfl

/-- An entry changes no file but the one it is written to. -/
theorem fileAt?_log {entry : Log.Entry}
    (h : ∀ log, s.logFile = some log → log.threshold.admits entry.level = true →
      s.files.node? spot ≠ some (.file log.id)) :
    (s.log entry).files.fileAt? spot = s.files.fileAt? spot := by
  unfold Session.log
  dsimp only
  split
  · rfl
  · next log hlog =>
    split
    · next hadmits => exact fileAt?_append_of_ne (h log hlog hadmits) _
    · rfl

theorem FilesKept.node? (h : s.FilesKept s') (spot : Location) :
    s'.files.node? spot = s.files.node? spot := by
  rw [FileTree.node?, FileTree.node?, h.nodes]

theorem FilesKept.find_eq_file_iff {path : Path} (h : s.FilesKept s') :
    s'.files.find path = .ok (.file id) ↔ s.files.find path = .ok (.file id) := by
  have hkeeps : s.files.Keeps s'.files :=
    ⟨h.workingDirectory, fun spot mode hspot => (h.node? spot).trans hspot⟩
  have hkept : s'.files.Keeps s.files :=
    ⟨h.workingDirectory.symm, fun spot mode hspot => (h.node? spot).symm.trans hspot⟩
  simp only [FileTree.find_eq_file_iff, h.node?]
  exact exists_congr fun spot => and_congr_left' ⟨hkept.arrives, hkeeps.arrives⟩

/-- Logging leaves everything but the log file as it was. -/
theorem Logged.logging {tree : FileTree} (h : s.Logged s') (hlog : s.logFile = some ⟨id, level⟩)
    (hopened : Logging place id tree s.files) : Logging place id tree s'.files := by
  have hkept := h.filesKept
  refine hopened.of_kept hkept.nodes hkept.workingDirectory (fun number hnumber => ?_)
    (h.valid hopened.valid)
  refine hkept.file number fun log hlog' => ?_
  rw [hlog] at hlog'
  cases hlog'
  exact hnumber.symm

end Session

namespace Profile

open FileTree

variable {text : String} {path : Path} {tree logged : FileTree} {place : Location} {id : Nat}
  {s : Session} {level : Log.Threshold}

/-- When no entry about reading a profile is written to a file, what is read is what is
there. -/
theorem contents_of_not_admits
    (hinfo : ∀ log, s.logFile = some log → log.threshold.admits .info = false)
    (hwarn : ∀ log, s.logFile = some log → ∀ mode, s.files.mode? path = some mode →
      mode &&& readableByOthers ≠ 0 → log.threshold.admits .warn = false) :
    contents path s = s.files.readText path := by
  have hlogFile : (s.log (loadingEntry path)).logFile = s.logFile :=
    (Session.Logged.log s _).logFile
  have hfiles : (s.log (loadingEntry path)).files = s.files :=
    Session.files_log_of_not_admits hinfo
  have hsame : (warnIfInsecure path (s.log (loadingEntry path))).files = s.files := by
    unfold warnIfInsecure
    split
    · next mode hmode =>
      rw [hfiles] at hmode
      split
      · exact hfiles
      · next hsecure =>
        rw [Session.files_log_of_not_admits, hfiles]
        intro log hlog
        rw [hlogFile] at hlog
        exact hwarn log hlog mode hmode hsecure
    · exact hfiles
  rw [contents, hsame]

/-- Loading gives the profile in what it reads. -/
theorem load_eq_ok_iff {p : Profile} : (load path s).2 = .ok p ↔
    ∃ text, contents path s = .ok text ∧ (parse s.environment.text? text).result = .ok p := by
  have henvironment :
      (warnIfInsecure path (s.log (loadingEntry path))).environment = s.environment :=
    ((Session.Logged.log s _).trans (warnIfInsecure_logged path _)).environment
  unfold load contents
  dsimp only
  rw [henvironment]
  split
  · next fault hread =>
    rw [hread]
    exact ⟨nofun, nofun⟩
  · next text hread =>
    rw [hread]
    exact ⟨fun h => ⟨text, rfl, h⟩, fun ⟨_, htext, h⟩ => by cases htext; exact h⟩

theorem Stage.contentAt_congr
    (hsame : ∀ spot other, logged.SameFile spot other ↔ tree.SameFile spot other)
    (hcontent : logged.fileAt? place = tree.fileAt? place) (content : ByteArray) (stage : Stage) :
    stage.contentAt logged content place = stage.contentAt tree content place := by
  have heq : logged.SameFile = tree.SameFile := by
    funext spot other
    exact propext (hsame spot other)
  have hwritten : ∀ old, logged.writtenAt old content place = tree.writtenAt old content place := by
    intro old
    rw [writtenAt, writtenAt, heq, hcontent]
  cases stage with
  | untouched => exact hcontent
  | written old => exact hwritten old
  | stored old new =>
    rw [contentAt, contentAt, movedAt, movedAt, heq, hwritten]

/-- A document is stored beside the log as it is stored without it, and only a document that
is written to the log file on its way to its path becomes the log file. -/
theorem store_logging (h : Logging place id tree logged) (hvalid : tree.Valid)
    (hplace : (store text path tree).1.Undirected place) :
    ((store text path logged).2 = .ok () ↔ (store text path tree).2 = .ok ()) ∧
    ∀ spot, logged.node? spot ≠ some (.file id) →
      (store text path logged).1.fileAt? spot = (store text path tree).1.fileAt? spot ∧
      ((store text path logged).1.node? spot = some (.file id) →
        (store text path tree).2 = .ok () ∧ ∃ temporary,
          (store text path tree).1.Names (temporaryPath path) temporary ∧
            logged.node? temporary = some (.file id)) := by
  obtain ⟨stage, hends, hends'⟩ :=
    exists_ends_store hvalid h.valid h.alike h.stands hplace
  refine ⟨hends'.succeeds.trans hends.succeeds.symm, fun spot hspot => ⟨?_, fun hnode => ?_⟩⟩
  · rw [hends.fileAt, hends'.fileAt]
    exact Stage.contentAt_congr h.sameFile (h.fileAt spot hspot) _ stage
  · obtain hsame | ⟨old, rfl, hold⟩ := hends'.node spot id (h.valid place id h.stands) hnode
    · exact absurd hsame hspot
    · exact ⟨hends.succeeds.mpr ⟨old, spot, rfl⟩, old, hends.temporary old spot rfl, hold⟩

end Profile
end ServerLogin
