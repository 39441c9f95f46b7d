import ServerLogin.Files.Tree

/-!
What changes in a tree of files when it is written to.  A tree that keeps its
directories leads every path to the same place, so a file is found where it was
put.
-/

namespace ServerLogin.FileTree

variable {tree tree' : FileTree} {location other : Location} {id : Nat}

/-- Every name of a file refers to one of the files. -/
def Valid (tree : FileTree) : Prop :=
  ∀ location id, tree.node? location = some (.file id) → id < tree.files.size

theorem lookup_filter (nodes : List (Location × Node)) (location other : Location) :
    (nodes.filter (·.1 != location)).lookup other =
      if other = location then none else nodes.lookup other := by
  induction nodes with
  | nil => simp
  | cons entry nodes ih =>
    obtain ⟨name, node⟩ := entry
    by_cases hname : name = location
    · rw [List.filter_cons_of_neg (by simpa using hname), ih]
      split
      · rfl
      · next hother =>
        rw [List.lookup_cons, beq_eq_false_iff_ne.mpr fun h => hother (h.trans hname)]
    · rw [List.filter_cons_of_pos (by simpa using hname), List.lookup_cons, List.lookup_cons, ih]
      by_cases hother : other = name
      · have hne : other ≠ location := fun h => hname (hother.symm.trans h)
        rw [beq_iff_eq.mpr hother, if_neg hne, if_neg hne]
      · rw [beq_eq_false_iff_ne.mpr hother]

theorem node?_of_ne_nil (tree : FileTree) (h : location ≠ []) :
    tree.node? location = tree.nodes.lookup location :=
  if_neg (mt List.isEmpty_iff.mp h)

theorem node?_put (tree : FileTree) (location other : Location) (node : Node) :
    (tree.put location node).node? other =
      if other = location ∧ other ≠ [] then some node else tree.node? other := by
  by_cases hroot : other = []
  · rw [if_neg fun h => h.2 hroot, hroot]
    rfl
  · rw [node?_of_ne_nil _ hroot, node?_of_ne_nil _ hroot, put, List.lookup_cons, lookup_filter]
    by_cases hother : other = location
    · rw [beq_iff_eq.mpr hother, if_pos hother, if_pos ⟨hother, hroot⟩]
    · rw [beq_eq_false_iff_ne.mpr hother, if_neg hother, if_neg fun h => hother h.1]

theorem node?_remove (tree : FileTree) (location other : Location) :
    (tree.remove location).node? other =
      if other = location ∧ other ≠ [] then none else tree.node? other := by
  by_cases hroot : other = []
  · rw [if_neg fun h => h.2 hroot, hroot]
    rfl
  · rw [node?_of_ne_nil _ hroot, node?_of_ne_nil _ hroot, remove, lookup_filter]
    simp only [hroot, ne_eq, not_false_eq_true, and_true]

/-- The directories of a tree are directories of another one, which has the same
working directory. -/
structure Keeps (tree tree' : FileTree) : Prop where
  workingDirectory : tree'.workingDirectory = tree.workingDirectory
  directory : ∀ location mode, tree.node? location = some (.directory mode) →
    tree'.node? location = some (.directory mode)

theorem Keeps.refl (tree : FileTree) : tree.Keeps tree := ⟨rfl, fun _ _ h => h⟩

theorem Keeps.trans {tree'' : FileTree} (h : tree.Keeps tree') (h' : tree'.Keeps tree'') :
    tree.Keeps tree'' :=
  ⟨h'.workingDirectory.trans h.workingDirectory,
    fun location mode hnode => h'.directory location mode (h.directory location mode hnode)⟩

theorem keeps_withFiles (tree : FileTree) (files : Array File) :
    tree.Keeps { tree with files := files } := ⟨rfl, fun _ _ h => h⟩

theorem Keeps.walk (h : tree.Keeps tree') {names : List String} {target : Location}
    (hwalk : tree.walk location names = .ok target) : tree'.walk location names = .ok target := by
  induction names generalizing location with
  | nil => exact hwalk
  | cons name names ih =>
    rw [FileTree.walk] at hwalk ⊢
    split at hwalk
    · next hdot =>
      rw [if_pos hdot]
      exact ih hwalk
    · next hdot =>
      rw [if_neg hdot]
      split at hwalk
      · next hdots =>
        rw [if_pos hdots]
        exact ih hwalk
      · next hdots =>
        rw [if_neg hdots]
        split at hwalk
        · cases hwalk
        · next hlimit =>
          rw [if_neg hlimit]
          split at hwalk
          · cases hwalk
          · cases hwalk
          · next mode hnode =>
            rw [h.directory _ mode hnode]
            exact ih hwalk

/-- A path leads to the same place while the directories are kept. -/
theorem Keeps.locate (h : tree.Keeps tree') {path : Path} {target : Target}
    (hlocate : tree.locate path = .ok target) : tree'.locate path = .ok target := by
  unfold FileTree.locate at hlocate ⊢
  split at hlocate
  · cases hlocate
  · next hnul =>
    rw [if_neg hnul]
    split at hlocate
    · cases hlocate
    · next hempty =>
      rw [if_neg hempty]
      split at hlocate
      · cases hlocate
      · next hlimit =>
        rw [if_neg hlimit]
        dsimp only at hlocate ⊢
        split at hlocate
        · exact hlocate
        · rw [h.workingDirectory]
          split at hlocate
          · cases hlocate
          · next around hwalk =>
            rw [h.walk hwalk]
            exact hlocate

/-- The last name of a path, which is no dot, is the one that a place has there. -/
theorem last_of_locate {path : Path} {slash : Bool}
    (h : tree.locate path = .ok (.name location slash)) :
    ∃ around last, ((path.pieces.filter (!·.isEmpty)).map String.ofList).getLast? = some last ∧
      last ≠ "." ∧ last ≠ ".." ∧ location = around ++ [last] := by
  unfold locate at h
  dsimp only at h
  repeat' split at h
  all_goals cases h
  next last hlast _ around _ hdot hdots _ => exact ⟨around, last, hlast, hdot, hdots, rfl⟩

theorem ne_nil_of_locate {path : Path} {slash : Bool}
    (h : tree.locate path = .ok (.name location slash)) : location ≠ [] := by
  obtain ⟨around, last, _, _, _, rfl⟩ := last_of_locate h
  exact List.append_ne_nil_of_right_ne_nil _ (List.cons_ne_nil _ _)

/-- A file can be put in place of a file or where nothing stands. -/
theorem keeps_put (h : ∀ mode, tree.node? location ≠ some (.directory mode)) (node : Node) :
    tree.Keeps (tree.put location node) := by
  refine ⟨rfl, fun other mode hnode => ?_⟩
  rw [node?_put, if_neg]
  · exact hnode
  · rintro ⟨rfl, _⟩
    exact h mode hnode

theorem keeps_remove (h : ∀ mode, tree.node? location ≠ some (.directory mode)) :
    tree.Keeps (tree.remove location) := by
  refine ⟨rfl, fun other mode hnode => ?_⟩
  rw [node?_remove, if_neg]
  · exact hnode
  · rintro ⟨rfl, _⟩
    exact h mode hnode

/-- A file that is put somewhere makes no new directory, nor does what is removed. -/
theorem put_keeps (tree : FileTree) (location : Location) (id : Nat) :
    (tree.put location (.file id)).Keeps tree := by
  refine ⟨rfl, fun other mode hnode => ?_⟩
  rw [node?_put] at hnode
  split at hnode
  · cases hnode
  · exact hnode

theorem remove_keeps (tree : FileTree) (location : Location) :
    (tree.remove location).Keeps tree := by
  refine ⟨rfl, fun other mode hnode => ?_⟩
  rw [node?_remove] at hnode
  split at hnode
  · cases hnode
  · exact hnode

end ServerLogin.FileTree
