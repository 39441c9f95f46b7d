import ServerLogin.Proofs.Files.Path
import ServerLogin.Proofs.Files.Write

/-!
What operations on a tree of files leave alone.  Contents are told by place.  Making
directories changes none, writing changes those of one file, under whatever names it
stands, and renaming those at two places.
-/

namespace ServerLogin

/-- The number of the file that a node refers to. -/
def Node.file? : Node → Option Nat
  | .file id => some id
  | .directory _ => none

namespace FileTree

variable {tree tree' tree'' : FileTree} {path : Path} {place other : Location} {id : Nat}

/-- The content of the file at a place, if a file stands there. -/
def fileAt? (tree : FileTree) (place : Location) : Option ByteArray :=
  match tree.node? place with
  | some (.file id) => tree.content? id
  | _ => none

/-- Two places that are one, or where the same file stands. -/
def SameFile (tree : FileTree) (place other : Location) : Prop :=
  place = other ∨ ∃ id, tree.node? place = some (.file id) ∧ tree.node? other = some (.file id)

/-- No file stands at two places. -/
def SinglyNamed (tree : FileTree) : Prop :=
  ∀ place other id, tree.node? place = some (.file id) → tree.node? other = some (.file id) →
    place = other

theorem SinglyNamed.eq (h : tree.SinglyNamed) (hsame : tree.SameFile place other) :
    place = other := by
  obtain heq | ⟨id, hplace, hother⟩ := hsame
  · exact heq
  · exact h place other id hplace hother

theorem mem_nodes_of_file (h : tree.node? place = some (.file id)) :
    (place, .file id) ∈ tree.nodes := by
  have hroot : place ≠ [] := by
    rintro rfl
    cases h
  rw [node?_of_ne_nil tree hroot, List.lookup_eq_some_iff] at h
  obtain ⟨before, behind, hnodes, _⟩ := h
  rw [hnodes]
  exact List.mem_append_right _ List.mem_cons_self

theorem valid_of_nodes (h : ∀ entry ∈ tree.nodes, ∀ id ∈ entry.2.file?, id < tree.files.size) :
    tree.Valid := fun _ id hnode => h _ (mem_nodes_of_file hnode) id rfl

theorem singlyNamed_of_nodes (h : ∀ entry ∈ tree.nodes, ∀ other ∈ tree.nodes,
    ∀ id ∈ entry.2.file?, id ∈ other.2.file? → entry.1 = other.1) : tree.SinglyNamed :=
  fun _ _ id hplace hother =>
    h _ (mem_nodes_of_file hplace) _ (mem_nodes_of_file hother) id rfl rfl

theorem Keeps.names (h : tree.Keeps tree') (hname : tree.Names path place) :
    tree'.Names path place := by
  obtain ⟨slash, hlocate⟩ := hname
  exact ⟨slash, h.locate hlocate⟩

theorem fileAt?_of_file (h : tree.node? place = some (.file id)) :
    tree.fileAt? place = tree.content? id := by
  rw [fileAt?, h]

theorem fileAt?_congr (hnode : tree'.node? place = tree.node? place)
    (hfiles : tree'.files = tree.files) : tree'.fileAt? place = tree.fileAt? place := by
  simp only [fileAt?, content?, hnode, hfiles]

theorem read_of_fileAt? {content : ByteArray} (hlocate : tree.locate path = .ok (.name place false))
    (h : tree.fileAt? place = some content) : tree.read path = .ok content := by
  unfold fileAt? at h
  split at h
  · next id hnode => exact LeadsTo.read ⟨hlocate, hnode⟩ h
  · cases h

theorem fileAt?_setContent (h : tree.node? place = some (.file id)) (hid : id < tree.files.size)
    (content : ByteArray) : (tree.setContent id content).fileAt? place = some content := by
  have hnode : (tree.setContent id content).node? place = some (.file id) := h
  rw [fileAt?_of_file hnode]
  exact content?_setContent hid content

theorem fileAt?_setContent_of_ne (h : tree.node? place ≠ some (.file id)) (content : ByteArray) :
    (tree.setContent id content).fileAt? place = tree.fileAt? place := by
  have hnode : (tree.setContent id content).node? place = tree.node? place := rfl
  unfold fileAt?
  rw [hnode]
  split
  · next number hnumber =>
    have hne : id ≠ number := by
      rintro rfl
      exact h hnumber
    rw [content?, setContent, Array.getElem?_modify, if_neg hne, content?]
  · rfl

/-- A file has been opened at a place: one that stood there, or a new one. -/
structure Opened (tree : FileTree) (path : Path) (place : Location) (id : Nat)
    (tree' : FileTree) : Prop where
  names : tree.Names path place
  keeps : tree.Keeps tree'
  kept : tree'.Keeps tree
  stands : tree'.node? place = some (.file id)
  node : ∀ other, other ≠ place → tree'.node? other = tree.node? other
  fileAt : ∀ other, other ≠ place → tree'.fileAt? other = tree.fileAt? other
  stood : ∀ other, other ≠ place → tree.node? other = some (.file id) →
    tree.node? place = some (.file id)

theorem exists_opened (hvalid : tree.Valid) (h : tree.openFile path = .ok (tree', id)) :
    ∃ place, tree.Opened path place id tree' := by
  obtain ⟨place, hlocate, ⟨hnode, rfl⟩ | ⟨hnone, rfl, rfl⟩⟩ := openFile_eq_ok h
  · exact ⟨place, ⟨false, hlocate⟩, .refl tree', .refl tree', hnode, fun _ _ => rfl, fun _ _ => rfl,
      fun _ _ _ => hnode⟩
  · have hnode : ∀ other, other ≠ place →
        (tree.put place (.file tree.files.size)).node? other = tree.node? other := by
      intro other hother
      rw [node?_put, if_neg fun h => hother h.1]
    refine ⟨place, ⟨false, hlocate⟩, ?_, ?_, ?_, hnode, ?_, ?_⟩
    · exact (keeps_put (by rw [hnone]; nofun) _).trans (keeps_withFiles _ _)
    · exact ⟨rfl, (put_keeps tree place _).directory⟩
    · exact (node?_put ..).trans (if_pos ⟨rfl, ne_nil_of_locate hlocate⟩)
    · intro other hother
      unfold fileAt?
      change (match (tree.put place (.file tree.files.size)).node? other with
        | some (.file id) => _
        | _ => none) = _
      rw [hnode other hother]
      split
      · next number hnumber =>
        have hold : number < tree.files.size := hvalid other number hnumber
        rw [content?, content?, Array.getElem?_push_lt hold, Array.getElem?_eq_getElem hold]
      · rfl
    · intro other _ hother
      exact absurd (hvalid other _ hother) (Nat.lt_irrefl _)

/-- A file at the end of a path has been given a content; it was made for that unless it
stood there. -/
structure Written (tree : FileTree) (path : Path) (place : Location) (content : ByteArray)
    (tree' : FileTree) : Prop where
  names : tree.Names path place
  valid : tree'.Valid
  keeps : tree.Keeps tree'
  kept : tree'.Keeps tree
  fileAt : tree'.fileAt? place = some content
  others : ∀ other, ¬tree.SameFile place other → tree'.fileAt? other = tree.fileAt? other
  sameFile : ∀ other, tree'.SameFile place other → tree.SameFile place other

/-- What becomes of a tree when a file in it is opened and given a content. -/
theorem exists_written {opened : FileTree} (hvalid : tree.Valid)
    (h : tree.openFile path = .ok (opened, id)) (content : ByteArray) :
    ∃ place, tree.Written path place content (opened.setContent id content) := by
  obtain ⟨place, hopened⟩ := exists_opened hvalid h
  have hsame : ∀ other, opened.node? other = some (.file id) → tree.SameFile place other := by
    intro other hother
    by_cases heq : other = place
    · exact .inl heq.symm
    · rw [hopened.node other heq] at hother
      exact .inr ⟨id, hopened.stood other heq hother, hother⟩
  have hgrown := hvalid.openFile h
  refine ⟨place, hopened.names, hgrown.setContent id content,
    hopened.keeps.trans (keeps_withFiles _ _),
    ⟨hopened.kept.workingDirectory, hopened.kept.directory⟩, ?_, ?_, ?_⟩
  · exact fileAt?_setContent hopened.stands (hgrown place id hopened.stands) content
  · intro other hother
    rw [fileAt?_setContent_of_ne (fun hnode => hother (hsame other hnode)),
      hopened.fileAt other fun heq => hother (.inl heq.symm)]
  · rintro other (heq | ⟨number, hplace, hother⟩)
    · exact .inl heq
    · have hnumber : some (Node.file id) = some (Node.file number) := hopened.stands.symm.trans hplace
      cases hnumber
      exact hsame other hother

theorem exists_written_of_write {content : ByteArray} (hvalid : tree.Valid)
    (h : tree.write path content = .ok tree') :
    ∃ place, tree.Written path place content tree' := by
  unfold write at h
  split at h
  · cases h
  · next opened id hopen =>
    cases h
    exact exists_written hvalid hopen content

/-- A file has been given another place. -/
structure Renamed (tree : FileTree) (source target : Path) (old new : Location)
    (tree' : FileTree) : Prop where
  source : tree.Names source old
  target : tree.locate target = .ok (.name new false)
  valid : tree.Valid → tree'.Valid
  keeps : tree.Keeps tree'
  kept : tree'.Keeps tree
  files : tree'.files = tree.files
  arrives : ∃ id, tree.node? old = some (.file id) ∧ tree'.node? new = some (.file id)
  leaves : old ≠ new → tree'.node? old = none ∨ tree.SameFile old new
  others : ∀ other, other ≠ old → other ≠ new → tree'.node? other = tree.node? other

theorem exists_renamed {source target : Path} (h : tree.rename source target = .ok tree') :
    ∃ old new, tree.Renamed source target old new tree' := by
  have hvalid : tree.Valid → tree'.Valid := fun hvalid => hvalid.rename h
  obtain ⟨old, new, id, hold, hnew, hnode, hdirectory, hmoved⟩ := rename_eq_ok h
  refine ⟨old, new, ?_⟩
  obtain ⟨hsame, rfl⟩ | ⟨_, rfl⟩ := hmoved
  · exact ⟨⟨false, hold⟩, hnew, hvalid, .refl tree', .refl tree', rfl, ⟨id, hnode, hsame⟩,
      fun _ => .inr (.inr ⟨id, hnode, hsame⟩), fun _ _ _ => rfl⟩
  · refine ⟨⟨false, hold⟩, hnew, hvalid, keeps_move hnode hdirectory,
      (put_keeps _ new id).trans (remove_keeps tree old), rfl, ⟨id, hnode, ?_⟩, ?_, ?_⟩
    · rw [node?_put, if_pos ⟨rfl, ne_nil_of_locate hnew⟩]
    · intro hne
      rw [node?_put, if_neg fun h => hne h.1, node?_remove,
        if_pos ⟨rfl, ne_nil_of_locate hold⟩]
      exact .inl rfl
    · intro other hother hother'
      rw [node?_put, if_neg fun h => hother' h.1, node?_remove, if_neg fun h => hother h.1]

/-- The file that is given another place has its content there. -/
theorem Renamed.fileAt {source target : Path} {old new : Location}
    (h : tree.Renamed source target old new tree') : tree'.fileAt? new = tree.fileAt? old := by
  obtain ⟨id, hold, hnew⟩ := h.arrives
  rw [fileAt?_of_file hold, fileAt?_of_file hnew, content?, content?, h.files]

/-- Nothing is new but directories, each at a place that one of some paths names. -/
structure Furnished (paths : Path → Prop) (tree tree' : FileTree) : Prop where
  files : tree'.files = tree.files
  workingDirectory : tree'.workingDirectory = tree.workingDirectory
  node : ∀ place, tree'.node? place = tree.node? place ∨
    tree.node? place = none ∧ tree'.node? place = some (.directory newDirectoryMode) ∧
      ∃ path, paths path ∧ tree'.Names path place

namespace Furnished

variable {paths : Path → Prop}

theorem refl (paths : Path → Prop) (tree : FileTree) : Furnished paths tree tree :=
  ⟨rfl, rfl, fun _ => .inl rfl⟩

theorem node?_of_some (h : Furnished paths tree tree') {node : Node}
    (hnode : tree.node? place = some node) : tree'.node? place = some node := by
  obtain hsame | ⟨hnone, _⟩ := h.node place
  · rw [hsame, hnode]
  · rw [hnone] at hnode
    cases hnode

theorem keeps (h : Furnished paths tree tree') : tree.Keeps tree' :=
  ⟨h.workingDirectory, fun _ _ hnode => h.node?_of_some hnode⟩

theorem file_iff (h : Furnished paths tree tree') :
    tree'.node? place = some (.file id) ↔ tree.node? place = some (.file id) := by
  obtain hsame | ⟨hnone, hdirectory, _⟩ := h.node place
  · rw [hsame]
  · rw [hnone, hdirectory]
    exact ⟨nofun, nofun⟩

theorem valid (h : Furnished paths tree tree') (hvalid : tree.Valid) : tree'.Valid := by
  intro place id hnode
  rw [h.files]
  exact hvalid place id (h.file_iff.mp hnode)

theorem sameFile_iff (h : Furnished paths tree tree') :
    tree'.SameFile place other ↔ tree.SameFile place other := by
  simp only [SameFile, h.file_iff]

theorem fileAt? (h : Furnished paths tree tree') (place : Location) :
    tree'.fileAt? place = tree.fileAt? place := by
  obtain hsame | ⟨hnone, hdirectory, _⟩ := h.node place
  · exact fileAt?_congr hsame h.files
  · rw [FileTree.fileAt?, FileTree.fileAt?, hnone, hdirectory]

theorem trans (h : Furnished paths tree tree') (h' : Furnished paths tree' tree'') :
    Furnished paths tree tree'' := by
  refine ⟨h'.files.trans h.files, h'.workingDirectory.trans h.workingDirectory, fun place => ?_⟩
  obtain hsame | ⟨hnone, hdirectory, path, hpath, hname⟩ := h.node place
  · rw [← hsame]
    exact h'.node place
  · exact .inr ⟨hnone, h'.node?_of_some hdirectory, path, hpath, h'.keeps.names hname⟩

/-- A directory that is new is at a place that one of the paths names. -/
theorem directory (h : Furnished paths tree tree') {mode : Nat}
    (hnode : tree'.node? place = some (.directory mode)) :
    tree.node? place = some (.directory mode) ∨
      tree.node? place = none ∧ ∃ path, paths path ∧ tree'.Names path place := by
  obtain hsame | ⟨hnone, _, hpath⟩ := h.node place
  · exact .inl (hsame.symm.trans hnode)
  · exact .inr ⟨hnone, hpath⟩

theorem of_makeDirectory (hpath : paths path) (h : tree.makeDirectory path = .ok tree') :
    Furnished paths tree tree' := by
  unfold makeDirectory at h
  split at h
  · cases h
  · cases h
  · next place slash hlocate =>
    split at h
    · cases h
    · next hnone =>
      cases h
      have hkeeps : tree.Keeps (tree.put place (.directory newDirectoryMode)) :=
        keeps_put (by rw [hnone]; nofun) _
      refine ⟨rfl, rfl, fun other => ?_⟩
      rw [node?_put]
      split
      · next hother =>
        obtain ⟨rfl, _⟩ := hother
        exact .inr ⟨hnone, rfl, path, hpath, slash, hkeeps.locate hlocate⟩
      · exact .inl rfl

end Furnished

end FileTree
end ServerLogin
