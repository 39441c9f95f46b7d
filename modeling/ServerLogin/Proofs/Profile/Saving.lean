import ServerLogin.Profile.Storage
import ServerLogin.Proofs.Files.Script

/-!
Saving a profile, operation by operation.  The directories around the path are made, the
document is written to the temporary path, and the file there is renamed.  Whatever fails
and wherever it is stopped, one of three things is left behind, and from that it follows
which files can have changed.
-/

namespace ServerLogin

open FileTree

/-- The directories around a path, as the path is written. -/
inductive Path.Around (path : Path) : Path → Prop
  | parent {around : Path} (h : path.parent? = some around) : Around path around
  | further {around parent : Path} (haround : Around path around)
      (h : around.parent? = some parent) : Around path parent

namespace Profile

variable {text : String} {path : Path} {tree after : FileTree}
  {result : Option (Except FileFault Unit)}

/-- Make the directories around a path. -/
def surrounding (path : Path) : Script :=
  match path.parent? with
  | none => .done (.ok ())
  | some parent =>
    if parent.text.isEmpty then .done (.ok ())
    else .directories (parent.text.length + 1) parent

def storing (text : String) (path : Path) : Script :=
  (surrounding path).andThen <|
    .perform (.write (temporaryPath path) text.toUTF8) fun
      | .error fault => .done (.error fault)
      | .ok () => .perform (.rename (temporaryPath path) path) .done

/-- The operations that saving a profile is made of. -/
def saving (p : Profile) (path : Path) : Script := storing p.toText path

theorem run_surrounding (path : Path) (tree : FileTree) :
    (surrounding path).run tree = makeSurroundings path tree := by
  unfold surrounding makeSurroundings
  cases path.parent? with
  | none => rfl
  | some parent =>
    dsimp only
    unfold makeDirectories
    split
    · rfl
    · exact Script.run_directories _ parent tree

theorem run_storing (text : String) (path : Path) (tree : FileTree) :
    (storing text path).run tree = store text path tree := by
  rw [storing, Script.run_andThen, run_surrounding, store]
  obtain ⟨around, result⟩ := makeSurroundings path tree
  cases result with
  | error fault => rfl
  | ok _ =>
    dsimp only
    rw [Script.run, Operation.run]
    cases around.write (temporaryPath path) text.toUTF8 with
    | error fault => rfl
    | ok written =>
      dsimp only
      rw [Script.run, Operation.run]
      cases written.rename (temporaryPath path) path <;> rfl

/-- Directories are made around a path and nowhere else. -/
theorem onlyMakes_surrounding (path : Path) : (surrounding path).OnlyMakes path.Around := by
  unfold surrounding
  split
  · exact .done _
  · next parent hparent =>
    split
    · exact .done _
    · exact Script.onlyMakes_directories .further _ (.parent hparent)

/-- What can be left behind when a document is stored. -/
inductive Remains (text : String) (path : Path) (tree after : FileTree)
    (result : Option (Except FileFault Unit)) : Prop
  /-- Nothing has been written. -/
  | surrounded (haround : Furnished path.Around tree after) (hresult : result ≠ some (.ok ()))
  /-- A beginning of the document, or all of it, stands at the temporary path. -/
  | begun {around : FileTree} {place : Location} {part rest : ByteArray}
      (haround : Furnished path.Around tree around) (hpart : text.toUTF8 = part ++ rest)
      (hwritten : around.Written (temporaryPath path) place part after)
      (hresult : result ≠ some (.ok ()))
  /-- The document has taken the place of the file at the path. -/
  | replaced {around written : FileTree} {place old new : Location}
      (haround : Furnished path.Around tree around)
      (hwritten : around.Written (temporaryPath path) place text.toUTF8 written)
      (hrenamed : written.Renamed (temporaryPath path) path old new after)
      (hresult : ∀ fault, result ≠ some (.error fault))

/-- Writing that fails or is stopped leaves at most a beginning behind. -/
theorem remains_of_unfinished {around : FileTree} (hvalid : tree.Valid)
    (haround : Furnished path.Around tree around) (hresult : result ≠ some (.ok ()))
    (h : (Operation.write (temporaryPath path) text.toUTF8).Leaves around after) :
    Remains text path tree after result := by
  cases h with
  | nothing => exact .surrounded haround hresult
  | beginning hopen hcontent =>
    obtain ⟨place, hwritten⟩ := exists_written (haround.valid hvalid) hopen _
    exact .begun haround hcontent hwritten hresult

/-- A document that is written but not renamed is all there, at the temporary path. -/
theorem remains_of_written {around : FileTree} {place : Location}
    (haround : Furnished path.Around tree around) (hresult : result ≠ some (.ok ()))
    (hwritten : around.Written (temporaryPath path) place text.toUTF8 after) :
    Remains text path tree after result :=
  .begun haround ByteArray.append_empty.symm hwritten hresult

theorem remains_of_renaming {around written : FileTree} {place : Location}
    (haround : Furnished path.Around tree around)
    (hwritten : around.Written (temporaryPath path) place text.toUTF8 written)
    (h : (Script.perform (.rename (temporaryPath path) path) .done).Leaves written after result) :
    Remains text path tree after result := by
  cases h with
  | stopped => exact remains_of_written haround nofun hwritten
  | broken hbroken =>
    cases hbroken
    exact remains_of_written haround nofun hwritten
  | failed hbroken hnext =>
    cases hbroken
    obtain ⟨rfl, rfl | rfl⟩ := Script.eq_of_leaves_done hnext
    · exact remains_of_written haround nofun hwritten
    · exact remains_of_written haround nofun hwritten
  | performed hrename hnext =>
    obtain ⟨old, new, hrenamed⟩ := exists_renamed hrename
    obtain ⟨rfl, rfl | rfl⟩ := Script.eq_of_leaves_done hnext
    · exact .replaced haround hwritten hrenamed nofun
    · exact .replaced haround hwritten hrenamed nofun

/-- However storing a document ends, it leaves one of the three behind. -/
theorem remains_of_leaves (hvalid : tree.Valid) (h : (storing text path).Leaves tree after result) :
    Remains text path tree after result := by
  obtain ⟨around, hsurrounding, hrest⟩ | ⟨hsurrounding, hresult⟩ := Script.leaves_andThen h
  · have haround := (onlyMakes_surrounding path).furnished hsurrounding
    cases hrest with
    | stopped => exact .surrounded haround nofun
    | broken hbroken => exact remains_of_unfinished hvalid haround nofun hbroken
    | failed hbroken hnext =>
      obtain ⟨rfl, rfl | rfl⟩ := Script.eq_of_leaves_done hnext
      · exact remains_of_unfinished hvalid haround nofun hbroken
      · exact remains_of_unfinished hvalid haround nofun hbroken
    | performed hwrite hnext =>
      obtain ⟨place, hwritten⟩ := exists_written_of_write (haround.valid hvalid) hwrite
      exact remains_of_renaming haround hwritten hnext
  · exact .surrounded ((onlyMakes_surrounding path).furnished hsurrounding) hresult

/-- What saving a profile comes to in a session, by what it leaves of the files. -/
def saved (path : Path) (s : Session) (left : FileTree) :
    Except FileFault Unit → Session × Except LoginError Unit
  | .ok () => (({ s with files := left } : Session).log (savedEntry path), .ok ())
  | .error fault => ({ s with files := left }, .error (.file fault))

/-- Saving leaves behind what its script can leave behind, and tells how that ended. -/
theorem exists_leaves_save (p : Profile) (path : Path) (s : Session) :
    ∃ left ended, (p.saving path).Leaves s.files left (some ended) ∧
      p.save path s = saved path s left ended := by
  refine ⟨_, _, Script.leaves_run (p.saving path) s.files, ?_⟩
  rw [saving, run_storing, save]
  obtain ⟨left, ended⟩ := store p.toText path s.files
  cases ended <;> rfl

end Profile
end ServerLogin
