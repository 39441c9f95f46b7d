import ServerLogin.Proofs.Files.Alike
import ServerLogin.Proofs.Profile.Interruption

/-!
The same document stored in two trees that are alike but for one place.  Storing ends at the
same stage in both, unless it makes a directory at that place in one of them; and the stage
tells what is found everywhere from what was found there before.
-/

namespace ServerLogin

namespace FileTree

variable {tree other around : FileTree} {path : Path} {place : Location}

theorem Furnished.writtenAt {paths : Path → Prop} (h : Furnished paths tree around)
    (spot : Location) (content : ByteArray) (place : Location) :
    around.writtenAt spot content place = tree.writtenAt spot content place := by
  have hsame : around.SameFile spot place = tree.SameFile spot place := propext h.sameFile_iff
  rw [FileTree.writtenAt, FileTree.writtenAt, hsame, h.fileAt?]

theorem Furnished.movedAt {paths : Path → Prop} (h : Furnished paths tree around)
    (old new : Location) (content : ByteArray) (place : Location) :
    around.movedAt old new content place = tree.movedAt old new content place := by
  have hsame : around.SameFile old new = tree.SameFile old new := propext h.sameFile_iff
  rw [FileTree.movedAt, FileTree.movedAt, hsame, h.writtenAt]

/-- Directories that can be made around a path in one tree can be made in the other. -/
theorem Alike.makeSurroundings (h : Alike place tree other)
    (hmake : Profile.makeSurroundings path tree = (around, .ok ()))
    (hplace : around.Undirected place) :
    ∃ around', Profile.makeSurroundings path other = (around', .ok ()) ∧
      Alike place around around' := by
  unfold Profile.makeSurroundings at hmake ⊢
  split at hmake
  · cases hmake
    exact ⟨other, rfl, h⟩
  · next parent _ =>
    unfold FileTree.makeDirectories at hmake ⊢
    split at hmake
    · next hempty =>
      cases hmake
      rw [if_pos hempty]
      exact ⟨other, rfl, h⟩
    · next hempty =>
      rw [if_neg hempty]
      exact h.makeAround hmake hplace

end FileTree

namespace Profile

open FileTree

variable {text : String} {path : Path} {tree other around after written : FileTree}
  {place old new : Location}

theorem furnished_makeSurroundings (path : Path) (tree : FileTree) :
    Furnished path.Around tree (makeSurroundings path tree).1 := by
  rw [← run_surrounding]
  exact (onlyMakes_surrounding path).furnished (Script.leaves_run _ tree)

/-- How far storing a document gets, and where it puts it. -/
inductive Stage
  | untouched
  | written (old : Location)
  | stored (old new : Location)

/-- What is found at a place behind a stage. -/
noncomputable def Stage.contentAt (tree : FileTree) (content : ByteArray) (place : Location) :
    Stage → Option ByteArray
  | .untouched => tree.fileAt? place
  | .written old => tree.writtenAt old content place
  | .stored old new => tree.movedAt old new content place

/-- Storing a document ends at a stage. -/
structure Ends (text : String) (path : Path) (tree : FileTree) (stage : Stage)
    (after : FileTree) (result : Except FileFault Unit) : Prop where
  fileAt : ∀ place, after.fileAt? place = stage.contentAt tree text.toUTF8 place
  /-- A file that was there has no new name but the path. -/
  node : ∀ place id, id < tree.files.size → after.node? place = some (.file id) →
    tree.node? place = some (.file id) ∨
      ∃ old, stage = .stored old place ∧ tree.node? old = some (.file id)
  temporary : ∀ old new, stage = .stored old new → after.Names (temporaryPath path) old
  succeeds : result = .ok () ↔ ∃ old new, stage = .stored old new

theorem ends_untouched (h : Furnished path.Around tree after) (fault : FileFault) :
    Ends text path tree .untouched after (.error fault) where
  fileAt := h.fileAt?
  node _ _ _ hnode := .inl (h.file_iff.mp hnode)
  temporary := nofun
  succeeds := ⟨nofun, nofun⟩

theorem ends_written (hvalid : tree.Valid) (h : Furnished path.Around tree around)
    (hold : around.Names (temporaryPath path) old)
    (hwrite : around.write (temporaryPath path) text.toUTF8 = .ok after) (fault : FileFault) :
    Ends text path tree (.written old) after (.error fault) where
  fileAt place := (fileAt?_write (h.valid hvalid) hold hwrite place).trans (h.writtenAt ..)
  node _ _ hid hnode := .inl <| h.file_iff.mp <|
    node?_of_write hold hwrite (by rw [h.files]; exact hid) hnode
  temporary := nofun
  succeeds := ⟨nofun, nofun⟩

theorem ends_stored (hvalid : tree.Valid) (h : Furnished path.Around tree around)
    (hold : around.Names (temporaryPath path) old) (hnew : around.Names path new)
    (hwrite : around.write (temporaryPath path) text.toUTF8 = .ok written)
    (hrename : written.rename (temporaryPath path) path = .ok after) :
    Ends text path tree (.stored old new) after (.ok ()) where
  fileAt place := (fileAt?_move (h.valid hvalid) hold hnew (ne_temporaryPath hnew hold).symm hwrite
    hrename place).trans (h.movedAt ..)
  node place id hid hnode := by
    obtain hsame | ⟨rfl, hmoved⟩ := node?_of_move (h.valid hvalid) hold hnew hwrite hrename
      (by rw [h.files]; exact hid) hnode
    · exact .inl (h.file_iff.mp hsame)
    · exact .inr ⟨old, rfl, h.file_iff.mp hmoved⟩
  temporary := by
    rintro _ _ ⟨⟩
    obtain ⟨_, hwritten⟩ := exists_written_of_write (h.valid hvalid) hwrite
    obtain ⟨_, _, hrenamed⟩ := exists_renamed hrename
    exact (hwritten.keeps.trans hrenamed.keeps).names hold
  succeeds := ⟨fun _ => ⟨old, new, rfl⟩, fun _ => rfl⟩

/-- What storing a document comes to behind the directories around its path. -/
theorem store_of_surroundings (h : makeSurroundings path tree = (around, .ok ())) :
    store text path tree = match around.write (temporaryPath path) text.toUTF8 with
      | .error fault => (around, .error fault)
      | .ok written =>
        match written.rename (temporaryPath path) path with
        | .error fault => (written, .error fault)
        | .ok after => (after, .ok ()) := by
  rw [store]
  exact h ▸ rfl

theorem furnished_of_surroundings {result : Except FileFault Unit}
    (h : makeSurroundings path tree = (around, result)) : Furnished path.Around tree around := by
  have hfurnished := furnished_makeSurroundings path tree
  rw [h] at hfurnished
  exact hfurnished

/-- The directories that are made around a path stay when a document is stored. -/
theorem keeps_store (hvalid : tree.Valid) (h : makeSurroundings path tree = (around, .ok ())) :
    around.Keeps (store text path tree).1 := by
  rw [store_of_surroundings h]
  cases hwrite : around.write (temporaryPath path) text.toUTF8 with
  | error fault => exact .refl around
  | ok written =>
    obtain ⟨_, hwritten⟩ :=
      exists_written_of_write ((furnished_of_surroundings h).valid hvalid) hwrite
    dsimp only
    cases hrename : written.rename (temporaryPath path) path with
    | error fault => exact hwritten.keeps
    | ok after =>
      obtain ⟨_, _, hrenamed⟩ := exists_renamed hrename
      exact hwritten.keeps.trans hrenamed.keeps

theorem store_of_surroundings_error {fault : FileFault}
    (h : makeSurroundings path tree = (around, .error fault)) :
    store text path tree = (around, .error fault) := by
  rw [store, h]

/-- How storing a document ends is told by the directories that are there. -/
theorem ends_of_surroundings (text : String) (hvalid : tree.Valid)
    (h : makeSurroundings path tree = (around, .ok ())) :
    ((∀ old, ¬around.Openable (temporaryPath path) old) →
      Ends text path tree .untouched (store text path tree).1 (store text path tree).2) ∧
    ∀ old, around.Openable (temporaryPath path) old →
      ((∀ new, ¬around.Openable path new) →
        Ends text path tree (.written old) (store text path tree).1 (store text path tree).2) ∧
      ∀ new, around.Openable path new →
        Ends text path tree (.stored old new) (store text path tree).1
          (store text path tree).2 := by
  have haround := furnished_of_surroundings h
  have hvalid' := haround.valid hvalid
  rw [store_of_surroundings h]
  constructor
  · intro hclosed
    cases hwrite : around.write (temporaryPath path) text.toUTF8 with
    | error fault => exact ends_untouched haround fault
    | ok written =>
      obtain ⟨old, hold⟩ := exists_write_iff.mp ⟨written, hwrite⟩
      exact absurd hold (hclosed old)
  · intro old hold
    obtain ⟨written, hwrite⟩ := exists_write_iff.mpr ⟨old, hold⟩
    obtain ⟨spot, hwritten⟩ := exists_written_of_write hvalid' hwrite
    obtain ⟨location, id, hleads, _⟩ := write_leadsTo hvalid' hwrite
    rw [hwrite]
    dsimp only
    constructor
    · intro hclosed
      cases hrename : written.rename (temporaryPath path) path with
      | error fault => exact ends_written hvalid haround hold.names hwrite fault
      | ok after =>
        obtain ⟨new, hnew⟩ := (exists_rename_iff hleads).mp ⟨after, hrename⟩
        exact absurd (hnew.of_keeps hwritten.kept hwritten.keeps) (hclosed new)
    · intro new hnew
      obtain ⟨after, hrename⟩ := (exists_rename_iff hleads).mpr
        ⟨new, hnew.of_keeps hwritten.keeps hwritten.kept⟩
      rw [hrename]
      exact ends_stored hvalid haround hold.names hnew.names hwrite hrename

/-- In two trees that are alike, storing a document ends at the same stage, when in the one no
directory is made where in the other a file stands. -/
theorem exists_ends_store (hvalid : tree.Valid) (hother : other.Valid)
    (h : Alike place tree other) {id : Nat} (hfile : other.node? place = some (.file id))
    (hplace : (store text path tree).1.Undirected place) :
    ∃ stage, Ends text path tree stage (store text path tree).1 (store text path tree).2 ∧
      Ends text path other stage (store text path other).1 (store text path other).2 := by
  cases hmake : makeSurroundings path tree with
  | mk around result =>
    cases hmake' : makeSurroundings path other with
    | mk around' result' =>
      have haround := furnished_of_surroundings hmake
      have haround' := furnished_of_surroundings hmake'
      cases result with
      | error fault =>
        cases result' with
        | error fault' =>
          rw [store_of_surroundings_error hmake, store_of_surroundings_error hmake']
          exact ⟨.untouched, ends_untouched haround fault, ends_untouched haround' fault'⟩
        | ok _ =>
          have hstands := undirected_of_file (haround'.file_iff.mpr hfile)
          obtain ⟨_, hcontra, _⟩ := h.symm.makeSurroundings hmake' hstands
          cases hmake.symm.trans hcontra
      | ok _ =>
        obtain ⟨made, hmade, halike⟩ :=
          h.makeSurroundings hmake (hplace.of_keeps (keeps_store hvalid hmake))
        cases hmake'.symm.trans hmade
        obtain ⟨huntouched, hends⟩ := ends_of_surroundings text hvalid hmake
        obtain ⟨huntouched', hends'⟩ := ends_of_surroundings text hother hmake'
        have hsame : ∀ {path spot}, around.Openable path spot ↔ around'.Openable path spot :=
          ⟨fun hspot => hspot.of_keeps halike.keeps halike.kept,
            fun hspot => hspot.of_keeps halike.kept halike.keeps⟩
        by_cases hold : ∃ old, around.Openable (temporaryPath path) old
        · obtain ⟨old, hold⟩ := hold
          obtain ⟨hwritten, hstored⟩ := hends old hold
          obtain ⟨hwritten', hstored'⟩ := hends' old (hsame.mp hold)
          by_cases hnew : ∃ new, around.Openable path new
          · obtain ⟨new, hnew⟩ := hnew
            exact ⟨.stored old new, hstored new hnew, hstored' new (hsame.mp hnew)⟩
          · rw [not_exists] at hnew
            exact ⟨.written old, hwritten hnew,
              hwritten' fun new h => hnew new (hsame.mpr h)⟩
        · rw [not_exists] at hold
          exact ⟨.untouched, huntouched hold, huntouched' fun old h => hold old (hsame.mpr h)⟩

end Profile
end ServerLogin
