import ServerLogin.Proofs.Files.Script

/-!
The same operations on two trees that are alike but for one place, where one of them may have
a file and the other nothing.  Directories are made in both or in neither, as long as none is
made at that place; and a file can be opened at the end of a path in both or in neither.
-/

namespace ServerLogin.FileTree

variable {tree other tree' : FileTree} {path : Path} {place : Location}

/-- Two trees with the same directories, where nothing stands at the same places, but perhaps
for one. -/
structure Alike (place : Location) (tree other : FileTree) : Prop where
  keeps : tree.Keeps other
  kept : other.Keeps tree
  vacant : ∀ spot, spot ≠ place → (other.node? spot = none ↔ tree.node? spot = none)

/-- No directory stands at a place. -/
def Undirected (tree : FileTree) (place : Location) : Prop :=
  ∀ mode, tree.node? place ≠ some (.directory mode)

theorem Undirected.of_keeps (h : tree'.Undirected place) (hkeeps : tree.Keeps tree') :
    tree.Undirected place := fun mode hnode => h mode (hkeeps.directory place mode hnode)

theorem undirected_of_file {id : Nat} (h : tree.node? place = some (.file id)) :
    tree.Undirected place := fun mode hnode => by
  rw [h] at hnode
  cases hnode

theorem Keeps.find_directory (h : tree.Keeps other) {mode : Nat}
    (hfind : tree.find path = .ok (.directory mode)) : other.find path = .ok (.directory mode) := by
  unfold find at hfind
  split at hfind
  · cases hfind
  · next spot hlocate =>
    rw [find, h.locate hlocate]
    split at hfind
    · next node hnode =>
      cases hfind
      dsimp only
      rw [h.directory spot mode hnode]
    · cases hfind
  · next spot slash hlocate =>
    rw [find, h.locate hlocate]
    split at hfind
    · cases hfind
    · split at hfind <;> cases hfind
    · next node _ hnode =>
      cases hfind
      dsimp only
      rw [h.directory spot mode hnode]

theorem isDirectory_iff : tree.isDirectory path = true ↔
    ∃ mode, tree.find path = .ok (.directory mode) := by
  unfold isDirectory
  split
  · next mode hfind => exact ⟨fun _ => ⟨mode, hfind⟩, fun _ => rfl⟩
  · next hfind => exact ⟨nofun, fun ⟨mode, h⟩ => absurd h (hfind mode)⟩

theorem makeDirectory_of_isDirectory (h : tree.isDirectory path = true) :
    tree.makeDirectory path = .error .exists := by
  obtain ⟨mode, hfind⟩ := isDirectory_iff.mp h
  unfold find at hfind
  rw [makeDirectory]
  split at hfind
  · cases hfind
  · rfl
  · split at hfind
    · cases hfind
    · split at hfind <;> cases hfind
    · next hnode => rw [hnode]

theorem ensureDirectory_eq_ok_iff : tree.ensureDirectory path = (tree', .ok ()) ↔
    tree.makeDirectory path = .ok tree' ∨ tree.isDirectory path = true ∧ tree' = tree := by
  constructor
  · intro h
    unfold ensureDirectory at h
    split at h
    · next hmake =>
      cases h
      exact .inl hmake
    · split at h
      · next hthere =>
        cases h
        exact .inr ⟨(Bool.and_eq_true_iff.mp hthere).2, rfl⟩
      · cases h
  · rintro (hmake | ⟨hthere, rfl⟩)
    · rw [ensureDirectory, hmake]
    · rw [ensureDirectory, makeDirectory_of_isDirectory hthere, hthere]
      rfl

theorem keeps_of_ensureDirectory (h : tree.ensureDirectory path = (tree', .ok ())) :
    tree.Keeps tree' := by
  obtain hmake | ⟨_, rfl⟩ := ensureDirectory_eq_ok_iff.mp h
  · have hfurnished : Furnished (fun _ => True) tree tree' := .of_makeDirectory trivial hmake
    exact hfurnished.keeps
  · exact .refl _

/-- A path that a directory is made at can be looked up. -/
theorem exists_locate_of_ensureDirectory (h : tree.ensureDirectory path = (tree', .ok ())) :
    ∃ target, tree.locate path = .ok target := by
  cases hlocate : tree.locate path with
  | ok target => exact ⟨target, rfl⟩
  | error fault =>
    obtain hmake | ⟨hthere, _⟩ := ensureDirectory_eq_ok_iff.mp h
    · rw [makeDirectory, hlocate] at hmake
      cases hmake
    · obtain ⟨mode, hfind⟩ := isDirectory_iff.mp hthere
      rw [find, hlocate] at hfind
      cases hfind

/-- Before directories are made, a path leads where it leads behind that, or one of them is
still missing. -/
theorem Furnished.walk {paths : Path → Prop} (h : Furnished paths tree tree')
    {names : List String} {spot target : Location} (hwalk : tree'.walk spot names = .ok target) :
    tree.walk spot names = .ok target ∨ tree.walk spot names = .error .notFound := by
  induction names generalizing spot with
  | nil => exact .inl hwalk
  | cons name names ih =>
    rw [FileTree.walk] at hwalk ⊢
    split at hwalk
    · next hdot =>
      rw [if_pos hdot]
      exact ih hwalk
    · next hdot =>
      rw [if_neg hdot]
      split at hwalk
      · next hdots =>
        rw [if_pos hdots]
        exact ih hwalk
      · next hdots =>
        rw [if_neg hdots]
        split at hwalk
        · cases hwalk
        · next hlimit =>
          rw [if_neg hlimit]
          split at hwalk
          · cases hwalk
          · cases hwalk
          · next mode hnode =>
            obtain hold | ⟨hnone, _⟩ := h.directory hnode
            · rw [hold]
              exact ih hwalk
            · rw [hnone]
              exact .inr rfl

theorem Furnished.locate {paths : Path → Prop} (h : Furnished paths tree tree') {target : Target}
    (hlocate : tree'.locate path = .ok target) :
    tree.locate path = .ok target ∨ tree.locate path = .error .notFound := by
  unfold FileTree.locate at hlocate ⊢
  split at hlocate
  · cases hlocate
  · next hnul =>
    rw [if_neg hnul]
    split at hlocate
    · cases hlocate
    · next hempty =>
      rw [if_neg hempty]
      split at hlocate
      · cases hlocate
      · next hlimit =>
        rw [if_neg hlimit]
        dsimp only at hlocate ⊢
        split at hlocate
        · exact .inl hlocate
        · rw [← h.workingDirectory]
          split at hlocate
          · cases hlocate
          · next around hwalk =>
            obtain hsame | hmissing := h.walk hwalk
            · rw [hsame]
              exact .inl hlocate
            · rw [hmissing]
              exact .inr rfl

/-- A directory is tried again when one around it is missing; nothing has been made then. -/
theorem eq_of_ensureDirectory_notFound
    (h : tree.ensureDirectory path = (tree', .error .notFound)) :
    tree' = tree ∧ tree.locate path = .error .notFound := by
  cases hmake : tree.makeDirectory path with
  | ok made =>
    rw [ensureDirectory, hmake] at h
    cases h
  | error fault =>
    obtain ⟨rfl, rfl⟩ := (Script.ensureDirectory_eq_notFound_iff hmake).mp h
    refine ⟨rfl, ?_⟩
    unfold makeDirectory at hmake
    split at hmake
    · next hlocate =>
      cases hmake
      exact hlocate
    · cases hmake
    · split at hmake <;> cases hmake

theorem furnished_makeAround (fuel : Nat) (tree : FileTree) (path : Path) :
    Furnished (fun _ => True) tree (tree.makeAround fuel path).1 := by
  rw [← Script.run_directories]
  exact (Script.onlyMakes_directories (fun _ _ => trivial) fuel trivial).furnished
    (Script.leaves_run _ tree)

theorem Keeps.put (h : tree.Keeps other) (spot : Location) (node : Node) :
    (tree.put spot node).Keeps (other.put spot node) := by
  refine ⟨h.workingDirectory, fun location mode hnode => ?_⟩
  rw [node?_put] at hnode ⊢
  split at hnode
  · next hspot => rw [if_pos hspot, hnode]
  · next hspot =>
    rw [if_neg hspot]
    exact h.directory location mode hnode

namespace Alike

theorem symm (h : Alike place tree other) : Alike place other tree :=
  ⟨h.kept, h.keeps, fun spot hspot => (h.vacant spot hspot).symm⟩

theorem put (h : Alike place tree other) (spot : Location) (node : Node) :
    Alike place (tree.put spot node) (other.put spot node) := by
  refine ⟨h.keeps.put spot node, h.kept.put spot node, fun location hlocation => ?_⟩
  rw [node?_put, node?_put]
  split
  · exact ⟨nofun, nofun⟩
  · exact h.vacant location hlocation

theorem makeDirectory (h : Alike place tree other) (hmake : tree.makeDirectory path = .ok tree')
    (hplace : tree'.Undirected place) :
    ∃ other', other.makeDirectory path = .ok other' ∧ Alike place tree' other' := by
  unfold FileTree.makeDirectory at hmake
  split at hmake
  · cases hmake
  · cases hmake
  · next spot slash hlocate =>
    split at hmake
    · cases hmake
    · next hnone =>
      cases hmake
      have hroot := ne_nil_of_locate hlocate
      have hspot : spot ≠ place := by
        rintro rfl
        exact hplace newDirectoryMode ((node?_put ..).trans (if_pos ⟨rfl, hroot⟩))
      refine ⟨_, ?_, h.put spot (.directory newDirectoryMode)⟩
      rw [FileTree.makeDirectory, h.keeps.locate hlocate]
      dsimp only
      rw [(h.vacant spot hspot).mpr hnone]

theorem ensureDirectory (h : Alike place tree other)
    (hmake : tree.ensureDirectory path = (tree', .ok ())) (hplace : tree'.Undirected place) :
    ∃ other', other.ensureDirectory path = (other', .ok ()) ∧ Alike place tree' other' := by
  obtain hmade | ⟨hthere, rfl⟩ := ensureDirectory_eq_ok_iff.mp hmake
  · obtain ⟨other', hother, halike⟩ := h.makeDirectory hmade hplace
    exact ⟨other', ensureDirectory_eq_ok_iff.mpr (.inl hother), halike⟩
  · obtain ⟨mode, hfind⟩ := isDirectory_iff.mp hthere
    have hother := isDirectory_iff.mpr ⟨mode, h.keeps.find_directory hfind⟩
    exact ⟨other, ensureDirectory_eq_ok_iff.mpr (.inr ⟨hother, rfl⟩), h⟩

/-- Where a directory around the path is missing in one tree, one is missing in the other. -/
theorem ensureDirectory_of_notFound {other' : FileTree} {paths : Path → Prop}
    (h : Alike place tree other) (hmissing : tree.ensureDirectory path = (tree', .error .notFound))
    (hfurnished : Furnished paths other other')
    (hlater : ∃ target, other'.locate path = .ok target) :
    other.ensureDirectory path = (other, .error .notFound) := by
  obtain ⟨target, htarget⟩ := hlater
  obtain hfound | hother := hfurnished.locate htarget
  · have hlocate := (eq_of_ensureDirectory_notFound hmissing).2
    rw [h.kept.locate hfound] at hlocate
    cases hlocate
  · have hmake : other.makeDirectory path = .error .notFound := by
      rw [FileTree.makeDirectory, hother]
    exact (Script.ensureDirectory_eq_notFound_iff hmake).mpr ⟨rfl, rfl⟩

/-- Directories that can be made in one tree can be made in the other, unless one of them is
made at the place where the trees may differ. -/
theorem makeAround {fuel : Nat} (h : Alike place tree other)
    (hmake : tree.makeAround fuel path = (tree', .ok ())) (hplace : tree'.Undirected place) :
    ∃ other', other.makeAround fuel path = (other', .ok ()) ∧ Alike place tree' other' := by
  induction fuel generalizing tree other tree' path with
  | zero => cases hmake
  | succ fuel ih =>
    rw [FileTree.makeAround] at hmake
    split at hmake
    · next missing hmissing =>
      split at hmake
      · cases hmake
      · next parent hparent =>
        split at hmake
        · cases hmake
        · next hne =>
          split at hmake
          · cases hmake
          · next around haround =>
            obtain rfl := (eq_of_ensureDirectory_notFound hmissing).1
            obtain ⟨otherAround, hotherAround, halike⟩ :=
              ih h haround (hplace.of_keeps (keeps_of_ensureDirectory hmake))
            obtain ⟨other', hother, halike'⟩ := halike.ensureDirectory hmake hplace
            -- The path can be looked up in the other tree once the directories around it are
            -- made, so before that it fails there for want of one of them, too.
            have hfurnished : Furnished (fun _ => True) other otherAround := by
              have hmade := furnished_makeAround fuel other parent
              rw [hotherAround] at hmade
              exact hmade
            refine ⟨other', ?_, halike'⟩
            rw [FileTree.makeAround, h.ensureDirectory_of_notFound hmissing hfurnished
              (exists_locate_of_ensureDirectory hother)]
            dsimp only
            rw [hparent]
            dsimp only
            rw [if_neg hne, hotherAround]
            exact hother
    · next hfound =>
      obtain ⟨other', hother, halike⟩ := h.ensureDirectory hmake hplace
      refine ⟨other', ?_, halike⟩
      rw [Script.makeAround_of_ne_notFound, hother]
      intro after hafter
      rw [hother] at hafter
      cases hafter

end Alike

/-! ### Writing and renaming -/

variable {written renamed : FileTree} {source target : Path} {content : ByteArray}
  {old new spot : Location} {id : Nat}

/-- A path ends in a name where a file can be opened, whether or not there is one. -/
structure Openable (tree : FileTree) (path : Path) (spot : Location) : Prop where
  locate : tree.locate path = .ok (.name spot false)
  undirected : tree.Undirected spot

theorem Openable.of_keeps (h : tree.Openable path spot) (hkeeps : tree.Keeps other)
    (hkept : other.Keeps tree) : other.Openable path spot :=
  ⟨hkeeps.locate h.locate, h.undirected.of_keeps hkept⟩

theorem Openable.names (h : tree.Openable path spot) : tree.Names path spot := ⟨false, h.locate⟩

theorem Openable.exists_openFile (h : tree.Openable path spot) :
    ∃ opened id, tree.openFile path = .ok (opened, id) := by
  unfold openFile
  rw [h.locate]
  dsimp only [Bool.false_eq_true, if_false]
  cases hnode : tree.node? spot with
  | none => exact ⟨_, _, rfl⟩
  | some node =>
    cases node with
    | directory mode => exact absurd hnode (h.undirected mode)
    | file id => exact ⟨_, _, rfl⟩

theorem exists_openable_of_openFile {opened : FileTree}
    (h : tree.openFile path = .ok (opened, id)) : ∃ spot, tree.Openable path spot := by
  obtain ⟨spot, hlocate, ⟨hnode, _⟩ | ⟨hnode, _⟩⟩ := openFile_eq_ok h
  · exact ⟨spot, hlocate, undirected_of_file hnode⟩
  · exact ⟨spot, hlocate, fun mode hmode => by rw [hnode] at hmode; cases hmode⟩

theorem exists_write_iff :
    (∃ written, tree.write path content = .ok written) ↔ ∃ spot, tree.Openable path spot := by
  constructor
  · rintro ⟨written, hwrite⟩
    unfold write at hwrite
    split at hwrite
    · cases hwrite
    · next hopen => exact exists_openable_of_openFile hopen
  · rintro ⟨spot, hspot⟩
    obtain ⟨opened, id, hopen⟩ := hspot.exists_openFile
    exact ⟨opened.setContent id content, by rw [write, hopen]⟩

/-- A file can be given a path where one can be opened. -/
theorem exists_rename_iff (hsource : tree.LeadsTo source old id) :
    (∃ renamed, tree.rename source target = .ok renamed) ↔ ∃ spot, tree.Openable target spot := by
  constructor
  · rintro ⟨renamed, hrename⟩
    obtain ⟨_, new, _, _, hnew, _, hundirected, _⟩ := rename_eq_ok hrename
    exact ⟨new, hnew, hundirected⟩
  · rintro ⟨spot, hspot⟩
    unfold rename
    rw [hsource.locate, hspot.locate]
    dsimp only
    rw [hsource.node]
    cases hnode : tree.node? spot with
    | none => exact ⟨_, rfl⟩
    | some node =>
      cases node with
      | directory mode => exact absurd hnode (hspot.undirected mode)
      | file other =>
        by_cases hsame : other = id
        · subst hsame
          exact ⟨tree, if_pos rfl⟩
        · exact ⟨_, if_neg fun heq => hsame (Node.file.inj (Option.some.inj heq))⟩

/-- Writing puts nothing new in the tree but the file that is written to, if there is none. -/
theorem node?_write (hspot : tree.Names path spot) (h : tree.write path content = .ok written)
    (place : Location) : written.node? place = tree.node? place ∨
      place = spot ∧ tree.node? spot = none ∧
        written.node? spot = some (.file tree.files.size) := by
  unfold write at h
  split at h
  · cases h
  · next opened id hopen =>
    cases h
    obtain ⟨location, hlocate, ⟨_, rfl⟩ | ⟨hnone, rfl, rfl⟩⟩ := openFile_eq_ok hopen
    · exact .inl rfl
    · obtain rfl := hspot.unique ⟨false, hlocate⟩
      have hput := node?_put tree spot place (.file tree.files.size)
      by_cases hplace : place = spot
      · subst hplace
        exact .inr ⟨rfl, hnone, hput.trans (if_pos ⟨rfl, ne_nil_of_locate hlocate⟩)⟩
      · exact .inl (hput.trans (if_neg fun h => hplace h.1))

/-- A file that has a name once something is written had it before, or is new. -/
theorem node?_of_write (hspot : tree.Names path spot) (h : tree.write path content = .ok written)
    (hid : id < tree.files.size) (hnode : written.node? place = some (.file id)) :
    tree.node? place = some (.file id) := by
  obtain hsame | ⟨rfl, _, hnew⟩ := node?_write hspot h place
  · rw [← hsame, hnode]
  · rw [hnode] at hnew
    cases hnew
    exact absurd hid (Nat.lt_irrefl _)

/-- Writing leaves it at that whether the file that is written to stands somewhere else, too. -/
theorem sameFile_write_iff (hvalid : tree.Valid) (hspot : tree.Names path spot)
    (h : tree.write path content = .ok written) :
    written.SameFile spot place ↔ tree.SameFile spot place := by
  constructor
  · obtain ⟨location, hwritten⟩ := exists_written_of_write hvalid h
    obtain rfl := hspot.unique hwritten.names
    exact hwritten.sameFile place
  · rintro (rfl | ⟨id, hold, hplace⟩)
    · exact .inl rfl
    · refine .inr ⟨id, ?_, ?_⟩
      · obtain hsame | ⟨_, hnone, _⟩ := node?_write hspot h spot
        · rw [hsame, hold]
        · rw [hnone] at hold
          cases hold
      · obtain hsame | ⟨rfl, hnone, _⟩ := node?_write hspot h place
        · rw [hsame, hplace]
        · rw [hnone] at hplace
          cases hplace

theorem fileAt?_of_sameFile (h : tree.SameFile place spot) :
    tree.fileAt? place = tree.fileAt? spot := by
  obtain rfl | ⟨id, hplace, hspot⟩ := h
  · rfl
  · rw [fileAt?_of_file hplace, fileAt?_of_file hspot]

open Classical in
/-- What is found at a place when a document is written to a file. -/
noncomputable def writtenAt (tree : FileTree) (spot : Location) (content : ByteArray)
    (place : Location) : Option ByteArray :=
  if tree.SameFile spot place then some content else tree.fileAt? place

open Classical in
/-- What is found at a place when that file is given another place. -/
noncomputable def movedAt (tree : FileTree) (old new : Location) (content : ByteArray)
    (place : Location) : Option ByteArray :=
  if place = new then some content
  else if place = old ∧ ¬tree.SameFile old new then none
  else tree.writtenAt old content place

theorem fileAt?_write (hvalid : tree.Valid) (hspot : tree.Names path spot)
    (h : tree.write path content = .ok written) (place : Location) :
    written.fileAt? place = tree.writtenAt spot content place := by
  obtain ⟨location, hwritten⟩ := exists_written_of_write hvalid h
  obtain rfl := hspot.unique hwritten.names
  unfold writtenAt
  split
  · next hsame =>
    rw [← fileAt?_of_sameFile ((sameFile_write_iff hvalid hspot h).mpr hsame), hwritten.fileAt]
  · next hother => exact hwritten.others place hother

/-- A file that is given another place leaves its own one, unless it stands at both. -/
theorem rename_sameFile (hold : tree.Names source old) (hnew : tree.Names target new)
    (h : tree.rename source target = .ok renamed) (hsame : tree.SameFile old new)
    (hne : old ≠ new) : renamed = tree := by
  obtain ⟨_, _, id, hold', hnew', hnode, _, ⟨_, rfl⟩ | ⟨hother, _⟩⟩ := rename_eq_ok h
  · rfl
  · obtain rfl := hold.unique ⟨false, hold'⟩
    obtain rfl := hnew.unique ⟨false, hnew'⟩
    obtain heq | ⟨number, hnumber, hnumber'⟩ := hsame
    · exact absurd heq hne
    · rw [hnode] at hnumber
      cases hnumber
      exact absurd hnumber' hother

theorem fileAt?_move (hvalid : tree.Valid) (hold : tree.Names source old)
    (hnew : tree.Names target new) (hne : old ≠ new)
    (hwrite : tree.write source content = .ok written)
    (hrename : written.rename source target = .ok renamed) (place : Location) :
    renamed.fileAt? place = tree.movedAt old new content place := by
  obtain ⟨location, hwritten⟩ := exists_written_of_write hvalid hwrite
  obtain rfl := hold.unique hwritten.names
  obtain ⟨old', new', hrenamed⟩ := exists_renamed hrename
  obtain rfl := (hwritten.keeps.names hold).unique hrenamed.source
  obtain rfl := (hwritten.keeps.names hnew).unique ⟨false, hrenamed.target⟩
  have hcontent := fileAt?_write hvalid hold hwrite
  have hsame : written.SameFile old new ↔ tree.SameFile old new :=
    sameFile_write_iff hvalid hold hwrite
  unfold movedAt
  split
  · next hplace =>
    rw [hplace, hrenamed.fileAt, hwritten.fileAt]
  · next hplace =>
    split
    · next hleft =>
      obtain ⟨rfl, hother⟩ := hleft
      obtain hnone | hsame' := hrenamed.leaves hne
      · rw [fileAt?, hnone]
      · exact absurd (hsame.mp hsame') hother
    · next hstays =>
      rw [← hcontent]
      by_cases hboth : tree.SameFile old new
      · rw [rename_sameFile (hwritten.keeps.names hold) (hwritten.keeps.names hnew) hrename
          (hsame.mpr hboth) hne]
      · have hplace' : place ≠ old := fun heq => hstays ⟨heq, hboth⟩
        exact fileAt?_congr (hrenamed.others place hplace' hplace) hrenamed.files

/-- A file stands nowhere else once it is given another place. -/
theorem node?_of_move (hvalid : tree.Valid) (hold : tree.Names source old)
    (hnew : tree.Names target new) (hwrite : tree.write source content = .ok written)
    (hrename : written.rename source target = .ok renamed) (hid : id < tree.files.size)
    (hnode : renamed.node? place = some (.file id)) :
    tree.node? place = some (.file id) ∨ place = new ∧ tree.node? old = some (.file id) := by
  obtain ⟨old', new', id', hold', hnew', hnode', _, ⟨_, rfl⟩ | ⟨_, rfl⟩⟩ := rename_eq_ok hrename
  · exact .inl (node?_of_write hold hwrite hid hnode)
  · have hkeeps : tree.Keeps written := by
      obtain ⟨_, hwritten⟩ := exists_written_of_write hvalid hwrite
      exact hwritten.keeps
    obtain rfl := (hkeeps.names hold).unique ⟨false, hold'⟩
    obtain rfl := (hkeeps.names hnew).unique ⟨false, hnew'⟩
    rw [node?_put] at hnode
    split at hnode
    · next hplace =>
      cases hnode
      exact .inr ⟨hplace.1, node?_of_write hold hwrite hid hnode'⟩
    · rw [node?_remove] at hnode
      split at hnode
      · cases hnode
      · exact .inl (node?_of_write hold hwrite hid hnode)

end ServerLogin.FileTree
