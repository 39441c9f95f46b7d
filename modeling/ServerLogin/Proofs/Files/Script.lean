import ServerLogin.Proofs.Files.Contents

/-!
Changes to a tree of files that take several operations.  A script fixes which operation
follows on what the ones before came to.  Carried out on a tree it has one end.  But an
operation can also fail for reasons that the tree does not show, and the program can be
stopped before any operation or while it writes; `Leaves` tells all trees that this can
leave behind.
-/

namespace ServerLogin

/-- An operation that changes a tree of files. -/
inductive Operation
  | makeDirectory (path : Path)
  | write (path : Path) (content : ByteArray)
  | rename (source target : Path)

namespace Operation

def run : Operation → FileTree → Except FileFault FileTree
  | makeDirectory path, tree => tree.makeDirectory path
  | write path content, tree => tree.write path content
  | rename source target, tree => tree.rename source target

/-- What an operation leaves behind that fails or is stopped: the tree as it was or, in the
middle of writing, a file that holds the beginning of what was to be written. -/
inductive Leaves : Operation → FileTree → FileTree → Prop
  | nothing (operation : Operation) (tree : FileTree) : Leaves operation tree tree
  | beginning {path : Path} {content part rest : ByteArray} {tree opened : FileTree} {id : Nat}
      (h : tree.openFile path = .ok (opened, id)) (hcontent : content = part ++ rest) :
      Leaves (write path content) tree (opened.setContent id part)

end Operation

/-- Operations and looks at the tree, each chosen by what the ones before came to. -/
inductive Script
  | done (result : Except FileFault Unit)
  | perform (operation : Operation) (next : Except FileFault Unit → Script)
  | look (path : Path) (next : Bool → Script)

namespace Script

variable {tree after : FileTree} {result : Option (Except FileFault Unit)}

/-- One script after another; the second is left out when the first fails. -/
def andThen : Script → Script → Script
  | done (.ok ()), second => second
  | done (.error fault), _ => done (.error fault)
  | perform operation next, second => perform operation fun result => (next result).andThen second
  | look path next, second => look path fun there => (next there).andThen second

/-- Carry out a script.  A look tells whether a directory stands at a path. -/
def run : Script → FileTree → FileTree × Except FileFault Unit
  | done result, tree => (tree, result)
  | perform operation next, tree =>
    match operation.run tree with
    | .ok tree => (next (.ok ())).run tree
    | .error fault => (next (.error fault)).run tree
  | look path next, tree => (next (tree.isDirectory path)).run tree

/-- The trees that a script can leave behind, with its result unless it is stopped.  Any
operation can fail with any fault, and a look that fails finds no directory. -/
inductive Leaves : Script → FileTree → FileTree → Option (Except FileFault Unit) → Prop
  | done (result : Except FileFault Unit) (tree : FileTree) :
      Leaves (done result) tree tree (some result)
  | stopped (script : Script) (tree : FileTree) : Leaves script tree tree none
  | broken {operation : Operation} {next : Except FileFault Unit → Script}
      {tree after : FileTree} (h : operation.Leaves tree after) :
      Leaves (perform operation next) tree after none
  | failed {operation : Operation} {next : Except FileFault Unit → Script}
      {tree between after : FileTree} {fault : FileFault}
      {result : Option (Except FileFault Unit)} (h : operation.Leaves tree between)
      (hnext : Leaves (next (.error fault)) between after result) :
      Leaves (perform operation next) tree after result
  | performed {operation : Operation} {next : Except FileFault Unit → Script}
      {tree between after : FileTree} {result : Option (Except FileFault Unit)}
      (h : operation.run tree = .ok between) (hnext : Leaves (next (.ok ())) between after result) :
      Leaves (perform operation next) tree after result
  | looked {path : Path} {next : Bool → Script} {tree after : FileTree} {there : Bool}
      {result : Option (Except FileFault Unit)} (h : there = true → tree.isDirectory path = true)
      (hnext : Leaves (next there) tree after result) : Leaves (look path next) tree after result

/-- The end of a script that is carried out is among those that it can come to. -/
theorem leaves_run (script : Script) (tree : FileTree) :
    script.Leaves tree (script.run tree).1 (some (script.run tree).2) := by
  induction script generalizing tree with
  | done result => exact .done result tree
  | perform operation next ih =>
    rw [run]
    split
    · next between h => exact .performed h (ih _ between)
    · next fault h => exact .failed (.nothing operation tree) (ih _ tree)
  | look path next ih => exact .looked (fun h => h) (ih _ tree)

/-- Nothing happens any more once a script is done. -/
theorem eq_of_leaves_done {ended : Except FileFault Unit}
    (h : (done ended).Leaves tree after result) :
    after = tree ∧ (result = none ∨ result = some ended) := by
  cases h with
  | done => exact ⟨rfl, .inr rfl⟩
  | stopped => exact ⟨rfl, .inl rfl⟩

theorem run_andThen (first second : Script) (tree : FileTree) :
    (first.andThen second).run tree = match first.run tree with
      | (tree, .ok ()) => second.run tree
      | (tree, .error fault) => (tree, .error fault) := by
  induction first generalizing tree with
  | done result => cases result <;> rfl
  | perform operation next ih =>
    rw [andThen, run, run]
    cases operation.run tree with
    | ok between => exact ih _ between
    | error fault => exact ih _ tree
  | look path next ih => exact ih _ tree

/-- A sequence ends in its second part, or in its first one without having succeeded. -/
theorem leaves_andThen {first second : Script} (h : (first.andThen second).Leaves tree after result) :
    (∃ between, first.Leaves tree between (some (.ok ())) ∧ second.Leaves between after result) ∨
      first.Leaves tree after result ∧ result ≠ some (.ok ()) := by
  induction first generalizing tree with
  | done ended =>
    cases ended with
    | ok _ => exact .inl ⟨tree, .done _ tree, h⟩
    | error fault =>
      refine .inr ⟨h, ?_⟩
      rintro rfl
      cases h
  | perform operation next ih =>
    cases h with
    | stopped => exact .inr ⟨.stopped _ _, nofun⟩
    | broken h => exact .inr ⟨.broken h, nofun⟩
    | failed h hnext =>
      obtain ⟨between, hfirst, hsecond⟩ | ⟨hfirst, hresult⟩ := ih _ hnext
      · exact .inl ⟨between, .failed h hfirst, hsecond⟩
      · exact .inr ⟨.failed h hfirst, hresult⟩
    | performed h hnext =>
      obtain ⟨between, hfirst, hsecond⟩ | ⟨hfirst, hresult⟩ := ih _ hnext
      · exact .inl ⟨between, .performed h hfirst, hsecond⟩
      · exact .inr ⟨.performed h hfirst, hresult⟩
  | look path next ih =>
    cases h with
    | stopped => exact .inr ⟨.stopped _ _, nofun⟩
    | looked h hnext =>
      obtain ⟨between, hfirst, hsecond⟩ | ⟨hfirst, hresult⟩ := ih _ hnext
      · exact .inl ⟨between, .looked h hfirst, hsecond⟩
      · exact .inr ⟨.looked h hfirst, hresult⟩

/-- Scripts that change nothing but to make directories at some of the given paths. -/
inductive OnlyMakes (paths : Path → Prop) : Script → Prop
  | done (result : Except FileFault Unit) : OnlyMakes paths (done result)
  | perform {path : Path} {next : Except FileFault Unit → Script} (hpath : paths path)
      (hnext : ∀ result, OnlyMakes paths (next result)) :
      OnlyMakes paths (perform (.makeDirectory path) next)
  | look {path : Path} {next : Bool → Script} (hnext : ∀ there, OnlyMakes paths (next there)) :
      OnlyMakes paths (look path next)

namespace OnlyMakes

variable {paths : Path → Prop} {script second : Script}

theorem andThen (h : script.OnlyMakes paths) (hsecond : second.OnlyMakes paths) :
    (script.andThen second).OnlyMakes paths := by
  induction h with
  | done result =>
    cases result with
    | ok _ => exact hsecond
    | error fault => exact .done _
  | perform hpath _ ih => exact .perform hpath ih
  | look _ ih => exact .look ih

/-- However such a script ends, nothing is new but directories. -/
theorem furnished (h : script.OnlyMakes paths) (hleaves : script.Leaves tree after result) :
    FileTree.Furnished paths tree after := by
  induction h generalizing tree with
  | done =>
    cases hleaves with
    | done => exact .refl paths _
    | stopped => exact .refl paths _
  | perform hpath _ ih =>
    cases hleaves with
    | stopped => exact .refl paths _
    | broken hbroken =>
      cases hbroken
      exact .refl paths _
    | failed hbroken hnext =>
      cases hbroken
      exact ih _ hnext
    | performed hrun hnext => exact (FileTree.Furnished.of_makeDirectory hpath hrun).trans (ih _ hnext)
  | look _ ih =>
    cases hleaves with
    | stopped => exact .refl paths _
    | looked _ hnext => exact ih _ hnext

end OnlyMakes

def directory (path : Path) : Script :=
  .perform (.makeDirectory path) fun
    | .ok () => .done (.ok ())
    | .error fault => .look path fun there => .done (if there then .ok () else .error fault)

def directories : Nat → Path → Script
  | 0, _ => .done (.error .notFound)
  | fuel + 1, path =>
    .perform (.makeDirectory path) fun
      | .ok () => .done (.ok ())
      | .error .notFound =>
        match path.parent? with
        | none => .done (.error .notFound)
        | some parent =>
          if parent.text.isEmpty then .done (.error .notFound)
          else (directories fuel parent).andThen (directory path)
      | .error fault => .look path fun there => .done (if there then .ok () else .error fault)

/-- Making directories makes those around a path and no others. -/
theorem onlyMakes_directories {paths : Path → Prop}
    (hparent : ∀ {path parent : Path}, paths path → path.parent? = some parent → paths parent)
    (fuel : Nat) {path : Path} (h : paths path) : (directories fuel path).OnlyMakes paths := by
  induction fuel generalizing path with
  | zero => exact .done _
  | succ fuel ih =>
    have hlook : ∀ fault, (look path fun there =>
        done (if there then .ok () else .error fault)).OnlyMakes paths :=
      fun fault => .look fun _ => .done _
    refine .perform h fun result => ?_
    split
    · exact .done _
    · split
      · exact .done _
      · next parent hpath =>
        split
        · exact .done _
        · refine (ih (hparent h hpath)).andThen (.perform h fun result => ?_)
          cases result with
          | ok _ => exact .done _
          | error fault => exact hlook fault
    · exact hlook _

/-- No directory stands where a directory cannot be made, unless it is that one. -/
theorem isDirectory_of_makeDirectory {path : Path} {fault : FileFault}
    (h : tree.makeDirectory path = .error fault) (hfault : fault ≠ .exists) :
    tree.isDirectory path = false := by
  unfold FileTree.makeDirectory at h
  split at h
  · next hlocate =>
    cases h
    rw [FileTree.isDirectory, FileTree.find, hlocate]
  · cases h
    exact absurd rfl hfault
  · split at h
    · cases h
      exact absurd rfl hfault
    · cases h

/-- A look behind a failure tells whether the directory is there already. -/
theorem run_look {path : Path} {fault : FileFault} (h : tree.makeDirectory path = .error fault) :
    (look path fun there => done (if there then .ok () else .error fault)).run tree =
      tree.ensureDirectory path := by
  rw [run, run, FileTree.ensureDirectory, h]
  by_cases hexists : fault = .exists
  · subst hexists
    cases tree.isDirectory path <;> rfl
  · dsimp only
    rw [isDirectory_of_makeDirectory h hexists, Bool.and_false]
    rfl

theorem run_directory (path : Path) (tree : FileTree) :
    (directory path).run tree = tree.ensureDirectory path := by
  rw [directory, run, Operation.run]
  cases hmake : tree.makeDirectory path with
  | ok after =>
    rw [FileTree.ensureDirectory, hmake]
    rfl
  | error fault => exact run_look hmake

/-- A directory whose parent is missing is the only one that is tried again. -/
theorem ensureDirectory_eq_notFound_iff {path : Path} {after : FileTree} {fault : FileFault}
    (h : tree.makeDirectory path = .error fault) :
    tree.ensureDirectory path = (after, .error .notFound) ↔ after = tree ∧ fault = .notFound := by
  rw [FileTree.ensureDirectory, h]
  dsimp only
  split
  · next hthere =>
    rw [Bool.and_eq_true, decide_eq_true_eq] at hthere
    refine ⟨nofun, ?_⟩
    rintro ⟨_, rfl⟩
    cases hthere.1
  · rw [Prod.mk.injEq, Except.error.injEq]
    exact and_congr_left' eq_comm

/-- Nothing is made around a directory that can be made or is there. -/
theorem makeAround_of_ne_notFound {path : Path}
    (h : ∀ after, tree.ensureDirectory path ≠ (after, .error .notFound)) (fuel : Nat) :
    tree.makeAround (fuel + 1) path = tree.ensureDirectory path := by
  rw [FileTree.makeAround]
  split
  · next heq => exact absurd heq (h _)
  · rfl

/-- The script for making directories does what making them comes to. -/
theorem run_directories (fuel : Nat) (path : Path) (tree : FileTree) :
    (directories fuel path).run tree = tree.makeAround fuel path := by
  induction fuel generalizing path tree with
  | zero => rfl
  | succ fuel ih =>
    rw [directories, run, Operation.run]
    cases hmake : tree.makeDirectory path with
    | ok after =>
      rw [FileTree.makeAround, FileTree.ensureDirectory, hmake]
      rfl
    | error fault =>
      by_cases hmissing : fault = .notFound
      · subst hmissing
        rw [FileTree.makeAround, (ensureDirectory_eq_notFound_iff hmake).mpr ⟨rfl, rfl⟩]
        dsimp only
        cases path.parent? with
        | none => rfl
        | some parent =>
          dsimp only
          split
          · rfl
          · rw [run_andThen, ih parent tree]
            obtain ⟨around, result⟩ := tree.makeAround fuel parent
            cases result with
            | ok _ => exact run_directory path around
            | error fault => rfl
      · have hfound : ∀ after, tree.ensureDirectory path ≠ (after, .error .notFound) :=
          fun after heq => hmissing ((ensureDirectory_eq_notFound_iff hmake).mp heq).2
        rw [makeAround_of_ne_notFound hfound, ← run_look hmake]
        cases fault with
        | notFound => exact absurd rfl hmissing
        | _ => rfl

end Script
end ServerLogin
