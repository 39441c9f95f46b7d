import ServerLogin.Proofs.Files.Tree

/-!
Writing to a tree of files.  No operation leaves a name without its file, and what
is written to a path, or given to it, is found there.
-/

namespace ServerLogin.FileTree

variable {tree tree' : FileTree} {path : Path} {id : Nat}

/-! ### Every name keeps its file -/

theorem valid_empty : Valid {} := by
  intro location id h
  by_cases hroot : location = []
  · rw [hroot] at h
    cases h
  · rw [node?_of_ne_nil _ hroot] at h
    cases h

theorem Valid.put (h : tree.Valid) (location : Location) {node : Node}
    (hnode : ∀ id, node = .file id → id < tree.files.size) : (tree.put location node).Valid := by
  intro other id hother
  rw [node?_put] at hother
  split at hother
  · exact hnode id (Option.some.inj hother)
  · exact h other id hother

theorem Valid.remove (h : tree.Valid) (location : Location) : (tree.remove location).Valid := by
  intro other id hother
  rw [node?_remove] at hother
  split at hother
  · cases hother
  · exact h other id hother

theorem Valid.withFiles (h : tree.Valid) {files : Array File}
    (hsize : tree.files.size ≤ files.size) : Valid { tree with files := files } :=
  fun location id hnode => Nat.lt_of_lt_of_le (h location id hnode) hsize

theorem Valid.setContent (h : tree.Valid) (id : Nat) (content : ByteArray) :
    (tree.setContent id content).Valid :=
  h.withFiles (Nat.le_of_eq Array.size_modify.symm)

theorem Valid.append (h : tree.Valid) (id : Nat) (content : ByteArray) :
    (tree.append id content).Valid :=
  h.withFiles (Nat.le_of_eq Array.size_modify.symm)

theorem Valid.makeDirectory (h : tree.Valid) (hmake : tree.makeDirectory path = .ok tree') :
    tree'.Valid := by
  unfold FileTree.makeDirectory at hmake
  split at hmake
  · cases hmake
  · cases hmake
  · split at hmake
    · cases hmake
    · cases hmake
      exact h.put _ nofun

theorem Valid.ensureDirectory (h : tree.Valid) (path : Path) :
    (tree.ensureDirectory path).1.Valid := by
  unfold FileTree.ensureDirectory
  split
  · next hmake => exact h.makeDirectory hmake
  · split <;> exact h

theorem Valid.makeAround (h : tree.Valid) (fuel : Nat) (path : Path) :
    (makeAround fuel tree path).1.Valid := by
  induction fuel generalizing tree path with
  | zero => exact h
  | succ fuel ih =>
    have hensure := h.ensureDirectory path
    rw [FileTree.makeAround]
    split
    · next heq =>
      rw [heq] at hensure
      split
      · exact hensure
      · next parent _ =>
        split
        · exact hensure
        · have haround := ih hensure parent
          split
          · next hmake =>
            rw [hmake] at haround
            exact haround
          · next hmake =>
            rw [hmake] at haround
            exact haround.ensureDirectory path
    · exact hensure

theorem Valid.makeDirectories (h : tree.Valid) (path : Path) :
    (tree.makeDirectories path).1.Valid := by
  unfold FileTree.makeDirectories
  split
  · exact h
  · exact h.makeAround _ path

/-! ### What is written is found -/

def content? (tree : FileTree) (id : Nat) : Option ByteArray := tree.files[id]?.map (·.content)

/-- A path leads to a file. -/
structure LeadsTo (tree : FileTree) (path : Path) (location : Location) (id : Nat) : Prop where
  locate : tree.locate path = .ok (.name location false)
  node : tree.node? location = some (.file id)

theorem LeadsTo.withFiles {location : Location} (h : tree.LeadsTo path location id)
    (files : Array File) : LeadsTo { tree with files := files } path location id :=
  ⟨(keeps_withFiles tree files).locate h.locate, h.node⟩

theorem LeadsTo.find {location : Location} (h : tree.LeadsTo path location id) :
    tree.find path = .ok (.file id) := by
  rw [FileTree.find, h.locate]
  dsimp only
  rw [h.node]
  rfl

theorem LeadsTo.read {location : Location} {content : ByteArray}
    (h : tree.LeadsTo path location id) (hcontent : tree.content? id = some content) :
    tree.read path = .ok content := by
  obtain ⟨file, hfile, rfl⟩ := Option.map_eq_some_iff.mp hcontent
  rw [FileTree.read, h.find]
  dsimp only
  rw [hfile]

/-- A file that is opened stands at the end of its path already, or it is made there. -/
theorem openFile_eq_ok (h : tree.openFile path = .ok (tree', id)) :
    ∃ location, tree.locate path = .ok (.name location false) ∧
      (tree.node? location = some (.file id) ∧ tree' = tree ∨
        tree.node? location = none ∧ id = tree.files.size ∧
          tree' = { tree.put location (.file id) with
            files := tree.files.push ⟨ByteArray.empty, newFileMode⟩ }) := by
  unfold openFile at h
  split at h
  · cases h
  · cases h
  · next location slash hlocate =>
    split at h
    · cases h
    · next hslash =>
      rw [Bool.not_eq_true] at hslash
      subst hslash
      split at h
      · cases h
      · next hnode =>
        cases h
        exact ⟨location, hlocate, .inl ⟨hnode, rfl⟩⟩
      · next hnode =>
        cases h
        exact ⟨location, hlocate, .inr ⟨hnode, rfl, rfl⟩⟩

theorem Valid.openFile (hvalid : tree.Valid) (h : tree.openFile path = .ok (tree', id)) :
    tree'.Valid := by
  obtain ⟨location, _, ⟨_, rfl⟩ | ⟨_, rfl, rfl⟩⟩ := openFile_eq_ok h
  · exact hvalid
  · have hgrown : Valid { tree with files := tree.files.push ⟨ByteArray.empty, newFileMode⟩ } :=
      hvalid.withFiles (by rw [Array.size_push]; exact Nat.le_succ _)
    have hnode : ∀ other, Node.file tree.files.size = .file other →
        other < (tree.files.push ⟨ByteArray.empty, newFileMode⟩).size := by
      intro other hother
      cases hother
      rw [Array.size_push]
      exact Nat.lt_succ_self _
    exact hgrown.put location hnode

/-- Opening a file leads its path to it. -/
theorem openFile_leadsTo (h : tree.openFile path = .ok (tree', id)) :
    ∃ location, tree'.LeadsTo path location id := by
  obtain ⟨location, hlocate, ⟨hnode, rfl⟩ | ⟨hnode, rfl, rfl⟩⟩ := openFile_eq_ok h
  · exact ⟨location, hlocate, hnode⟩
  · have hkeeps : tree.Keeps (tree.put location (.file tree.files.size)) :=
      keeps_put (by rw [hnode]; nofun) _
    have hleads : (tree.put location (.file tree.files.size)).LeadsTo path location
        tree.files.size :=
      ⟨hkeeps.locate hlocate,
        (node?_put ..).trans (if_pos ⟨rfl, ne_nil_of_locate hlocate⟩)⟩
    exact ⟨location, hleads.withFiles _⟩

theorem content?_setContent (h : id < tree.files.size) (content : ByteArray) :
    (tree.setContent id content).content? id = some content := by
  rw [content?, setContent, Array.getElem?_modify, if_pos rfl, Array.getElem?_eq_getElem h]
  rfl

theorem content?_append {other : Nat} (h : id ≠ other) (content : ByteArray) :
    (tree.append id content).content? other = tree.content? other := by
  rw [content?, append, Array.getElem?_modify, if_neg h, content?]

/-- What is written to a path is the content of the file it leads to. -/
theorem write_leadsTo {content : ByteArray} (hvalid : tree.Valid)
    (h : tree.write path content = .ok tree') :
    ∃ location id, tree'.LeadsTo path location id ∧ tree'.content? id = some content := by
  unfold write at h
  split at h
  · cases h
  · next opened id hopen =>
    cases h
    obtain ⟨location, hleads⟩ := openFile_leadsTo hopen
    exact ⟨location, id, hleads.withFiles _,
      content?_setContent (hvalid.openFile hopen location id hleads.node) content⟩

theorem fromUTF8?_toUTF8 (text : String) : String.fromUTF8? text.toUTF8 = some text :=
  dif_pos text.isValidUTF8

/-- A path leads to a file that holds a text. -/
def HoldsText (tree : FileTree) (path : Path) (text : String) : Prop :=
  ∃ location id, tree.LeadsTo path location id ∧ tree.content? id = some text.toUTF8

theorem HoldsText.readText {tree : FileTree} {path : Path} {text : String}
    (h : tree.HoldsText path text) : tree.readText path = .ok text := by
  obtain ⟨location, id, hleads, hcontent⟩ := h
  rw [FileTree.readText, hleads.read hcontent]
  dsimp only
  rw [fromUTF8?_toUTF8]

/-- A file is given the place at the end of another path, unless it stands there too. -/
theorem rename_eq_ok {source target : Path} (h : tree.rename source target = .ok tree') :
    ∃ old new id, tree.locate source = .ok (.name old false) ∧
      tree.locate target = .ok (.name new false) ∧ tree.node? old = some (.file id) ∧
      (∀ mode, tree.node? new ≠ some (.directory mode)) ∧
      (tree.node? new = some (.file id) ∧ tree' = tree ∨
        tree.node? new ≠ some (.file id) ∧ tree' = (tree.remove old).put new (.file id)) := by
  unfold rename at h
  split at h
  · cases h
  · cases h
  · cases h
  · cases h
  · next old oldSlash new newSlash hold hnew =>
    split at h
    · cases h
    · cases h
    · next id hnode =>
      split at h
      · cases h
      · next hslash =>
        rw [Bool.or_eq_true, not_or, Bool.not_eq_true, Bool.not_eq_true] at hslash
        obtain ⟨rfl, rfl⟩ := hslash
        split at h
        · cases h
        · next hdirectory =>
          refine ⟨old, new, id, hold, hnew, hnode, hdirectory, ?_⟩
          split at h
          · next hsame =>
            cases h
            exact .inl ⟨hsame, rfl⟩
          · next hother =>
            cases h
            exact .inr ⟨hother, rfl⟩

theorem Valid.rename {source target : Path} (hvalid : tree.Valid)
    (h : tree.rename source target = .ok tree') : tree'.Valid := by
  obtain ⟨old, new, id, _, _, hnode, _, ⟨_, rfl⟩ | ⟨_, rfl⟩⟩ := rename_eq_ok h
  · exact hvalid
  · refine (hvalid.remove old).put new fun other hother => ?_
    cases hother
    exact hvalid old id hnode

/-- The directories of a tree stay when a file is given another place. -/
theorem keeps_move {old new : Location} (hold : tree.node? old = some (.file id))
    (hnew : ∀ mode, tree.node? new ≠ some (.directory mode)) :
    tree.Keeps ((tree.remove old).put new (.file id)) := by
  refine (keeps_remove (by rw [hold]; nofun)).trans (keeps_put (fun mode hmode => ?_) _)
  rw [node?_remove] at hmode
  split at hmode
  · cases hmode
  · exact hnew mode hmode

/-- A file that is given another path is found there. -/
theorem rename_leadsTo {source target : Path} {location : Location}
    (hsource : tree.LeadsTo source location id) (h : tree.rename source target = .ok tree') :
    ∃ location, tree'.LeadsTo target location id ∧ tree'.files = tree.files := by
  obtain ⟨old, new, id', hold, hnew, hnode, hdirectory, hmoved⟩ := rename_eq_ok h
  have hplace := hsource.locate
  rw [hold] at hplace
  cases hplace
  have hid := hsource.node
  rw [hnode] at hid
  cases hid
  obtain ⟨hsame, rfl⟩ | ⟨_, rfl⟩ := hmoved
  · exact ⟨new, ⟨hnew, hsame⟩, rfl⟩
  · have hput : ((tree.remove location).put new (.file id)).node? new = some (.file id) := by
      rw [node?_put, if_pos ⟨rfl, ne_nil_of_locate hnew⟩]
    exact ⟨new, ⟨(keeps_move hnode hdirectory).locate hnew, hput⟩, rfl⟩

end ServerLogin.FileTree
