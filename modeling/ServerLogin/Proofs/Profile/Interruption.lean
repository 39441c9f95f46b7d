import ServerLogin.Proofs.Profile.Saving

/-!
What an interruption does to the files around a profile.  However saving fails and wherever
it is stopped, only the file at the path and the one at the temporary path can change, and
the one at the path is never seen half written.
-/

namespace ServerLogin.Profile

open FileTree

variable {text : String} {path : Path} {tree after : FileTree}
  {result : Option (Except FileFault Unit)}

/-- The temporary path names another place than the path itself. -/
theorem ne_temporaryPath {place temporary : Location} (h : tree.Names path place)
    (htemporary : tree.Names (temporaryPath path) temporary) : place ≠ temporary :=
  h.ne_withExtension (by decide) (by decide) htemporary

/-- Without a file name, the temporary path is no path to write to either. -/
theorem write_temporaryPath_of_fileName?_eq_none (h : path.fileName? = none) (tree : FileTree)
    (content : ByteArray) : ∃ fault, tree.write (temporaryPath path) content = .error fault := by
  have hpath : temporaryPath path = path := by
    rw [temporaryPath, Path.withExtension, h]
  obtain ⟨fault, hopen⟩ := openFile_of_fileName?_eq_none h tree
  exact ⟨fault, by rw [hpath, write, hopen]⟩

/-- A place where the file at the temporary path stands, under that name or another. -/
def AtTemporary (path : Path) (tree after : FileTree) (place : Location) : Prop :=
  ∃ temporary, after.Names (temporaryPath path) temporary ∧ tree.SameFile temporary place

namespace Remains

/-- Before anything is written, directories are made; behind that, none is. -/
theorem exists_furnished (h : Remains text path tree after result) :
    ∃ around, Furnished path.Around tree around ∧ around.Keeps after ∧ after.Keeps around := by
  cases h with
  | surrounded haround => exact ⟨after, haround, .refl after, .refl after⟩
  | begun haround _ hwritten => exact ⟨_, haround, hwritten.keeps, hwritten.kept⟩
  | replaced haround hwritten hrenamed =>
    exact ⟨_, haround, hwritten.keeps.trans hrenamed.keeps, hrenamed.kept.trans hwritten.kept⟩

theorem valid (h : Remains text path tree after result) (hvalid : tree.Valid) : after.Valid := by
  cases h with
  | surrounded haround => exact haround.valid hvalid
  | begun _ _ hwritten => exact hwritten.valid
  | replaced _ hwritten hrenamed => exact hrenamed.valid hwritten.valid

theorem keeps (h : Remains text path tree after result) : tree.Keeps after := by
  obtain ⟨around, haround, hkeeps, _⟩ := h.exists_furnished
  exact haround.keeps.trans hkeeps

/-- A directory that is new is one of those around the path. -/
theorem directory (h : Remains text path tree after result) {place : Location} {mode : Nat}
    (hnode : after.node? place = some (.directory mode)) :
    tree.node? place = some (.directory mode) ∨
      tree.node? place = none ∧ ∃ around, path.Around around ∧ after.Names around place := by
  obtain ⟨around, haround, hkeeps, hkept⟩ := h.exists_furnished
  obtain hold | ⟨hnone, parent, hparent, hname⟩ := haround.directory (hkept.directory _ _ hnode)
  · exact .inl hold
  · exact .inr ⟨hnone, parent, hparent, hkeeps.names hname⟩

/-- Only the file at the temporary path and, unless storing fails, the one at the path have
another content than before. -/
theorem fileAt? (h : Remains text path tree after result) {place : Location}
    (hplace : ¬AtTemporary path tree after place) :
    after.fileAt? place = tree.fileAt? place ∨
      after.Names path place ∧ after.fileAt? place = some text.toUTF8 ∧
        ∀ fault, result ≠ some (.error fault) := by
  cases h with
  | surrounded haround => exact .inl (haround.fileAt? place)
  | @begun around temporary part rest haround _ hwritten =>
    have hother : ¬around.SameFile temporary place := fun hsame =>
      hplace ⟨temporary, hwritten.keeps.names hwritten.names, haround.sameFile_iff.mp hsame⟩
    rw [hwritten.others place hother, haround.fileAt?]
    exact .inl rfl
  | @replaced around written temporary old new haround hwritten hrenamed hresult =>
    have hold : temporary = old := (hwritten.keeps.names hwritten.names).unique hrenamed.source
    subst hold
    have hother : ¬around.SameFile temporary place := fun hsame =>
      hplace ⟨temporary, hrenamed.keeps.names hrenamed.source, haround.sameFile_iff.mp hsame⟩
    by_cases hnew : place = new
    · subst hnew
      exact .inr ⟨⟨false, hrenamed.keeps.locate hrenamed.target⟩,
        hrenamed.fileAt.trans hwritten.fileAt, hresult⟩
    · have hnode := hrenamed.others place (fun heq => hother (.inl heq.symm)) hnew
      rw [fileAt?_congr hnode hrenamed.files, hwritten.others place hother, haround.fileAt?]
      exact .inl rfl

/-- When storing succeeds, the whole document stands at the path. -/
theorem read (h : Remains text path tree after (some (.ok ()))) :
    after.read path = .ok text.toUTF8 := by
  cases h with
  | surrounded _ hresult => exact absurd rfl hresult
  | begun _ _ _ hresult => exact absurd rfl hresult
  | @replaced around written temporary old new haround hwritten hrenamed =>
    have hold : temporary = old := (hwritten.keeps.names hwritten.names).unique hrenamed.source
    subst hold
    exact read_of_fileAt? (hrenamed.keeps.locate hrenamed.target)
      (hrenamed.fileAt.trans hwritten.fileAt)

/-- When storing succeeds, nothing stays at the temporary path, unless the file there has
the path for another name. -/
theorem node?_temporary (h : Remains text path tree after (some (.ok ()))) {temporary : Location}
    (htemporary : after.Names (temporaryPath path) temporary) :
    after.node? temporary = none ∨
      ∃ place, place ≠ temporary ∧ after.Names path place ∧ tree.SameFile temporary place := by
  cases h with
  | surrounded _ hresult => exact absurd rfl hresult
  | begun _ _ _ hresult => exact absurd rfl hresult
  | @replaced around written place old new haround hwritten hrenamed =>
    have hplace : place = old := (hwritten.keeps.names hwritten.names).unique hrenamed.source
    have hold : old = temporary := (hrenamed.keeps.names hrenamed.source).unique htemporary
    subst hplace hold
    have hnew : after.Names path new := ⟨false, hrenamed.keeps.locate hrenamed.target⟩
    have hne : new ≠ place := ne_temporaryPath hnew htemporary
    obtain hnone | hsame := hrenamed.leaves (Ne.symm hne)
    · exact .inl hnone
    · exact .inr ⟨new, hne, hnew, haround.sameFile_iff.mp (hwritten.sameFile new hsame)⟩

end Remains


/-- What saving at a path does to the files of a tree, whether it succeeds, fails or is
stopped. -/
structure Touches (path : Path) (tree after : FileTree)
    (result : Option (Except FileFault Unit)) : Prop where
  /-- Every name keeps its file. -/
  valid : after.Valid
  /-- No other file is changed, made or removed. -/
  others : ∀ place, ¬after.Names path place → ¬AtTemporary path tree after place →
    after.fileAt? place = tree.fileAt? place
  /-- When saving fails, neither is the one at the path. -/
  failed : ∀ fault, result = some (.error fault) →
    ∀ place, ¬AtTemporary path tree after place → after.fileAt? place = tree.fileAt? place
  /-- When saving succeeds, nothing stays at the temporary path, unless the file there has the
  path for another name. -/
  succeeded : result = some (.ok ()) → ∀ temporary, after.Names (temporaryPath path) temporary →
    after.node? temporary = none ∨
      ∃ place, place ≠ temporary ∧ after.Names path place ∧ tree.SameFile temporary place
  /-- The file at the path is not the one at the temporary path, unless one file has the two
  for names. -/
  apart : tree.SinglyNamed → ∀ place, after.Names path place → ¬AtTemporary path tree after place
  /-- No directory is removed. -/
  directories : tree.Keeps after
  /-- No directory is made but around the path. -/
  made : ∀ place mode, after.node? place = some (.directory mode) →
    tree.node? place = some (.directory mode) ∨
      tree.node? place = none ∧ ∃ around, path.Around around ∧ after.Names around place

/-- Saving a profile changes no file but the one at the path and the one at the temporary
path, and when it fails not even the one at the path. -/
theorem save_touches (p : Profile) (path : Path) (tree : FileTree) (hvalid : tree.Valid) :
    (∀ s : Session, s.files = tree → ∃ left ended,
      p.save path s = saved path s left ended ∧ Touches path tree left (some ended)) ∧
    ∀ after result, (p.saving path).Leaves tree after result → Touches path tree after result := by
  have htouches : ∀ after result, (p.saving path).Leaves tree after result →
      Touches path tree after result := by
    intro after result hleaves
    have hremains := remains_of_leaves hvalid hleaves
    refine ⟨hremains.valid hvalid, ?_, ?_, ?_, ?_, hremains.keeps, fun _ _ => hremains.directory⟩
    · intro place hpath hplace
      obtain hsame | ⟨hname, _⟩ := hremains.fileAt? hplace
      · exact hsame
      · exact absurd hname hpath
    · rintro fault rfl place hplace
      obtain hsame | ⟨_, _, hresult⟩ := hremains.fileAt? hplace
      · exact hsame
      · exact absurd rfl (hresult fault)
    · rintro rfl temporary htemporary
      exact hremains.node?_temporary htemporary
    · rintro hsingle place hpath ⟨temporary, htemporary, hsame⟩
      exact ne_temporaryPath hpath htemporary (hsingle.eq hsame).symm
  refine ⟨?_, htouches⟩
  rintro s rfl
  obtain ⟨left, ended, hleaves, hsave⟩ := exists_leaves_save p path s
  exact ⟨left, ended, hsave, htouches left _ hleaves⟩

/-- A profile, a file with the name of its temporary one, and another file. -/
def neighbours : FileTree where
  nodes := [(["p.yaml"], .file 0), (["p.yaml.tmp"], .file 1), (["q.yaml"], .file 2)]
  files := #[⟨"old".toUTF8, 0o600⟩, ⟨"mine".toUTF8, 0o600⟩, ⟨"other".toUTF8, 0o600⟩]

theorem neighbours_valid : neighbours.Valid := valid_of_nodes (by decide)

theorem neighbours_singlyNamed : neighbours.SinglyNamed := singlyNamed_of_nodes (by decide)

/-- The other file is there as it was. -/
theorem save_touches_neighbours :
    neighbours.Valid ∧ ∀ after result,
      (saving {} ⟨"p.yaml"⟩).Leaves neighbours after result →
        after.fileAt? ["q.yaml"] = some "other".toUTF8 := by
  refine ⟨neighbours_valid, fun after result hleaves => ?_⟩
  have htouches := (save_touches {} ⟨"p.yaml"⟩ neighbours neighbours_valid).2 after result hleaves
  have hpath : after.Names ⟨"p.yaml"⟩ ["p.yaml"] :=
    htouches.directories.names ⟨false, rfl⟩
  have htemporary : after.Names (temporaryPath ⟨"p.yaml"⟩) ["p.yaml.tmp"] :=
    htouches.directories.names ⟨false, rfl⟩
  rw [htouches.others ["q.yaml"]]
  · rfl
  · intro hother
    exact absurd (hpath.unique hother) (by decide)
  · rintro ⟨temporary, hname, hsame⟩
    have heq := neighbours_singlyNamed.eq hsame
    subst heq
    exact absurd (htemporary.unique hname) (by decide)

/-- A file that stands at the temporary path is lost. -/
theorem save_loses_temporary :
    ¬∀ (p : Profile) (path : Path) (tree : FileTree), tree.Valid → tree.SinglyNamed →
      ∀ place content, ¬tree.Names path place → tree.fileAt? place = some content →
        (p.save path { files := tree }).1.files.fileAt? place = some content := by
  intro h
  have hother : ¬neighbours.Names ⟨"p.yaml"⟩ ["p.yaml.tmp"] := by
    intro hname
    have hpath : neighbours.Names ⟨"p.yaml"⟩ ["p.yaml"] := ⟨false, rfl⟩
    exact absurd (hpath.unique hname) (by decide)
  have hkept := h {} ⟨"p.yaml"⟩ neighbours neighbours_valid neighbours_singlyNamed
    ["p.yaml.tmp"] "mine".toUTF8 hother rfl
  exact absurd hkept (by decide +kernel)

/-- However saving a profile fails and wherever it is stopped, the file at the path is as it
was, or it is the whole document.  What that rests on: the temporary path never names the
place that the path names, and without a file name nothing is written at all. -/
theorem save_replaces_whole (p : Profile) (path : Path) (tree : FileTree) (hvalid : tree.Valid)
    (hsingle : tree.SinglyNamed) :
    (∀ s : Session, s.files = tree → ∃ left ended,
      p.save path s = saved path s left ended ∧
        (p.saving path).Leaves tree left (some ended)) ∧
    (∀ after result, (p.saving path).Leaves tree after result →
      (∀ place, after.Names path place → after.fileAt? place = tree.fileAt? place ∨
        after.fileAt? place = some p.toText.toUTF8) ∧
      (∀ place content, tree.locate path = .ok (.name place false) →
        tree.fileAt? place = some content →
          after.read path = .ok content ∨ after.read path = .ok p.toText.toUTF8) ∧
      (result = some (.ok ()) → after.read path = .ok p.toText.toUTF8)) ∧
    (∀ (tree : FileTree) (place temporary : Location), tree.Names path place →
      tree.Names (temporaryPath path) temporary → place ≠ temporary) ∧
    (path.fileName? = none → ∀ (tree : FileTree) (content : ByteArray),
      ∃ fault, tree.write (temporaryPath path) content = .error fault) := by
  refine ⟨?_, ?_, fun tree place temporary => ne_temporaryPath,
    write_temporaryPath_of_fileName?_eq_none⟩
  · rintro s rfl
    obtain ⟨left, ended, hleaves, hsave⟩ := exists_leaves_save p path s
    exact ⟨left, ended, hsave, hleaves⟩
  · intro after result hleaves
    have hremains := remains_of_leaves hvalid hleaves
    have hplace : ∀ place, after.Names path place → after.fileAt? place = tree.fileAt? place ∨
        after.fileAt? place = some p.toText.toUTF8 := by
      intro place hname
      have hapart : ¬AtTemporary path tree after place := by
        rintro ⟨temporary, htemporary, hsame⟩
        exact ne_temporaryPath hname htemporary (hsingle.eq hsame).symm
      obtain hsame | ⟨_, hdocument, _⟩ := hremains.fileAt? hapart
      · exact .inl hsame
      · exact .inr hdocument
    refine ⟨hplace, fun place content hlocate hcontent => ?_, ?_⟩
    · have hlocated := hremains.keeps.locate hlocate
      obtain hsame | hdocument := hplace place ⟨false, hlocated⟩
      · exact .inl (read_of_fileAt? hlocated (hsame.trans hcontent))
      · exact .inr (read_of_fileAt? hlocated hdocument)
    · rintro rfl
      exact hremains.read

/-- Stopped behind the first bytes of the document, saving leaves a whole profile behind. -/
theorem save_replaces_whole_stopped :
    neighbours.Valid ∧ neighbours.SinglyNamed ∧ ∃ part rest : ByteArray,
      part.size = 5 ∧ (toText {}).toUTF8 = part ++ rest ∧
        (saving {} ⟨"p.yaml"⟩).Leaves neighbours (neighbours.setContent 1 part) none ∧
        ((neighbours.setContent 1 part).read ⟨"p.yaml"⟩ = .ok "old".toUTF8 ∨
          (neighbours.setContent 1 part).read ⟨"p.yaml"⟩ = .ok (toText {}).toUTF8) := by
  let document := (toText {}).toUTF8
  have hsize : (document.extract 0 5).size = 5 := by decide +kernel
  have hcut : document = document.extract 0 5 ++ document.extract 5 document.size := by
    decide +kernel
  have hleaves : (saving {} ⟨"p.yaml"⟩).Leaves neighbours
      (neighbours.setContent 1 (document.extract 0 5)) none := .broken (.beginning rfl hcut)
  obtain ⟨_, hwhole, _⟩ :=
    save_replaces_whole {} ⟨"p.yaml"⟩ neighbours neighbours_valid neighbours_singlyNamed
  obtain ⟨_, hread, _⟩ := hwhole _ none hleaves
  exact ⟨neighbours_valid, neighbours_singlyNamed, _, _, hsize, hcut, hleaves,
    hread ["p.yaml"] _ rfl rfl⟩

end ServerLogin.Profile
