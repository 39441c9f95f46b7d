import ServerLogin.Proofs.Files.Tree

/-!
The file name of a path.  A path without one never names a place in a tree; and when
its extension is replaced, a path with one names another place.
-/

namespace ServerLogin

/-- The separator does not stand in the pieces between separators. -/
theorem notMem_of_mem_splitOnP {α : Type} {p : α → Bool} {as part : List α} {a : α}
    (hpart : part ∈ as.splitOnP p) (ha : p a = true) : a ∉ part := by
  induction as generalizing part with
  | nil =>
    rw [List.splitOnP_nil, List.mem_singleton] at hpart
    rw [hpart]
    exact List.not_mem_nil
  | cons b rest ih =>
    obtain ⟨first, parts, hparts⟩ := List.exists_cons_of_ne_nil (List.splitOnP_ne_nil p rest)
    rw [List.splitOnP_cons_eq_if_modifyHead, hparts] at hpart
    rw [hparts] at ih
    split at hpart
    · rcases List.mem_cons.mp hpart with rfl | hmore
      · exact List.not_mem_nil
      · exact ih hmore
    · next hb =>
      rw [List.modifyHead_cons] at hpart
      rcases List.mem_cons.mp hpart with rfl | hmore
      · rw [List.mem_cons, not_or]
        refine ⟨?_, ih List.mem_cons_self⟩
        rintro rfl
        exact hb ha
      · exact ih (List.mem_cons_of_mem _ hmore)

namespace Path

variable {path : Path} {before : List (List Char)} {name : List Char}

/-- The pieces of a path that name something or are dots, last first. -/
def steps (path : Path) : List (List Char) := path.pieces.reverse.filter (!·.isEmpty)

theorem notMem_of_mem_pieces {piece : List Char} (h : piece ∈ path.pieces) : '/' ∉ piece :=
  notMem_of_mem_splitOnP h rfl

/-- A path is divided into the pieces that it was put together from. -/
theorem pieces_ofPieces {pieces : List (List Char)} (hne : pieces ≠ [])
    (h : ∀ piece ∈ pieces, '/' ∉ piece) : (ofPieces pieces).pieces = pieces := by
  rw [Path.pieces, ofPieces, String.toList_ofList, ← List.splitOn_eq_splitOnP]
  exact List.splitOn_intercalate _ h hne

/-- What is dropped from reversed pieces stands in front of the others. -/
theorem dropBlank_suffix (pieces : List (List Char)) : dropBlank pieces <:+ pieces := by
  fun_induction dropBlank pieces with
  | case1 => exact List.suffix_rfl
  | case2 => exact List.nil_suffix
  | case3 => exact List.suffix_rfl
  | case4 piece before _ _ ih => exact ih.trans (List.suffix_cons _ _)
  | case5 => exact List.suffix_rfl

/-- The first step is kept unless it is a dot. -/
theorem dropBlank_of_head {pieces : List (List Char)}
    (h : (pieces.filter (!·.isEmpty)).head? = some name) (hdot : name ≠ ['.']) :
    ∃ before, dropBlank pieces = name :: before := by
  induction pieces with
  | nil => cases h
  | cons piece rest ih =>
    by_cases hempty : piece = []
    · subst hempty
      rw [List.filter_cons_of_neg (by simp)] at h
      obtain ⟨before, hbefore⟩ := ih h
      cases rest with
      | nil => cases h
      | cons next rest => exact ⟨before, hbefore⟩
    · rw [List.filter_cons_of_pos (by simpa using hempty), List.head?_cons,
        Option.some.injEq] at h
      subst h
      cases rest with
      | nil => exact ⟨[], by simp [dropBlank, hempty]⟩
      | cons next rest => exact ⟨next :: rest, by simp [dropBlank, hempty, hdot]⟩

/-- A path whose last step is no dot has that step for its file name. -/
theorem fileName?_of_head (h : path.steps.head? = some name) (hdot : name ≠ ['.'])
    (hdots : name ≠ ['.', '.']) : ∃ before, path.fileName? = some (before, name) := by
  obtain ⟨before, hbefore⟩ := dropBlank_of_head h hdot
  exact ⟨before, by simp [fileName?, split?, hbefore, hdot, hdots]⟩

/-- The pieces of a path end in its file name. -/
theorem mem_pieces_of_fileName? (h : path.fileName? = some (before, name)) :
    ∀ piece ∈ name :: before, piece ∈ path.pieces := by
  intro piece hpiece
  rw [fileName?, Option.filter_eq_some_iff, split?] at h
  obtain ⟨hsplit, _⟩ := h
  split at hsplit
  · cases hsplit
  · next heq =>
    cases hsplit
    exact List.mem_reverse.mp ((dropBlank_suffix _).mem (heq ▸ hpiece))

/-- The extension is replaced in the last step, and the steps before it are kept. -/
theorem pieces_withExtension (h : path.fileName? = some (before, name)) {extension : String}
    (hslash : '/' ∉ extension.toList) :
    (path.withExtension extension).pieces =
      before.reverse ++ [stem name ++ '.' :: extension.toList] := by
  have hpieces := mem_pieces_of_fileName? h
  have hstem : ∀ c ∈ stem name, c ∈ name := by
    intro c hc
    unfold stem at hc
    dsimp only at hc
    split at hc
    · exact hc
    · exact List.mem_of_mem_take hc
  rw [withExtension, h]
  refine pieces_ofPieces (List.append_ne_nil_of_right_ne_nil _ (List.cons_ne_nil _ _)) ?_
  intro piece hpiece
  rcases List.mem_append.mp hpiece with hbefore | hlast
  · exact notMem_of_mem_pieces
      (hpieces piece (List.mem_cons_of_mem _ (List.mem_reverse.mp hbefore)))
  · rw [List.mem_singleton.mp hlast, List.mem_append, List.mem_cons, not_or, not_or]
    have hname := notMem_of_mem_pieces (hpieces name List.mem_cons_self)
    exact ⟨fun hc => hname (hstem _ hc), by decide, hslash⟩

theorem head?_steps_withExtension (h : path.fileName? = some (before, name)) {extension : String}
    (hslash : '/' ∉ extension.toList) :
    (path.withExtension extension).steps.head? = some (stem name ++ '.' :: extension.toList) := by
  rw [steps, pieces_withExtension h hslash, List.reverse_append, List.reverse_singleton,
    List.singleton_append, List.filter_cons_of_pos (by simp), List.head?_cons]

/-- A run ends in front of the first item that does not belong to it. -/
theorem length_takeWhile_append_lt {α : Type} {p : α → Bool} {as : List α} {a : α} (ha : a ∈ as)
    (hp : p a = false) (bs : List α) : ((as ++ bs).takeWhile p).length < as.length := by
  have hrun : (as.takeWhile p).length < as.length := by
    refine Nat.lt_of_le_of_ne (List.takeWhile_prefix p).length_le fun hall => ?_
    have hsame : as.takeWhile p = as := (List.takeWhile_prefix p).eq_of_length hall
    rw [← hsame] at ha
    exact Bool.false_ne_true (hp.symm.trans (List.all_eq_true.mp List.all_takeWhile a ha))
  rw [List.takeWhile_append, if_neg (Nat.ne_of_lt hrun)]
  exact hrun

/-- What stands behind the last dot of a name holds no dot, so an extension with one is
never the extension that a name has. -/
theorem stem_append_ne (name : List Char) {extension : List Char} (h : '.' ∈ extension) :
    stem name ++ '.' :: extension ≠ name := by
  intro heq
  have hlength := congrArg List.length heq
  rw [List.length_append, List.length_cons] at hlength
  have hshort : (name.reverse.takeWhile (· ≠ '.')).length < extension.length := by
    have hreverse : extension.reverse.length = extension.length := List.length_reverse
    rw [← heq, List.reverse_append, List.reverse_cons, List.append_assoc, ← hreverse]
    exact length_takeWhile_append_lt (List.mem_reverse.mpr h) (by simp) _
  unfold stem at hlength
  dsimp only at hlength
  split at hlength
  · omega
  · rw [List.length_take] at hlength
    omega

end Path

namespace FileTree

variable {tree : FileTree} {path : Path} {place : Location}

/-- A path leads to a name in a directory, whether or not anything stands there. -/
def Names (tree : FileTree) (path : Path) (place : Location) : Prop :=
  ∃ slash, tree.locate path = .ok (.name place slash)

theorem Names.unique {other : Location} (h : tree.Names path place) (h' : tree.Names path other) :
    place = other := by
  obtain ⟨slash, hplace⟩ := h
  obtain ⟨slash', hother⟩ := h'
  rw [hplace] at hother
  cases hother
  rfl

/-- The place that a path names ends in the last step of the path, which is no dot. -/
theorem Names.exists_step (h : tree.Names path place) :
    ∃ around step, path.steps.head? = some step ∧ step ≠ ['.'] ∧ step ≠ ['.', '.'] ∧
      place = around ++ [String.ofList step] := by
  obtain ⟨slash, hlocate⟩ := h
  obtain ⟨around, last, hlast, hdot, hdots, rfl⟩ := last_of_locate hlocate
  have hstep : path.steps.head?.map String.ofList = some last := by
    rw [Path.steps, List.filter_reverse, List.head?_reverse, ← List.getLast?_map]
    exact hlast
  obtain ⟨step, hhead, rfl⟩ := Option.map_eq_some_iff.mp hstep
  refine ⟨around, step, hhead, ?_, ?_, rfl⟩
  · rintro rfl
    exact hdot rfl
  · rintro rfl
    exact hdots rfl

theorem Names.fileName? (h : tree.Names path place) :
    ∃ around before name, path.fileName? = some (before, name) ∧
      place = around ++ [String.ofList name] := by
  obtain ⟨around, step, hhead, hdot, hdots, rfl⟩ := h.exists_step
  obtain ⟨before, hname⟩ := Path.fileName?_of_head hhead hdot hdots
  exact ⟨around, before, step, hname, rfl⟩

/-- With an extension that no name has, a path names another place than before. -/
theorem Names.ne_withExtension {extension : String} {other : Location}
    (hdot : '.' ∈ extension.toList) (hslash : '/' ∉ extension.toList)
    (h : tree.Names path place) (hother : tree.Names (path.withExtension extension) other) :
    place ≠ other := by
  obtain ⟨around, before, name, hname, rfl⟩ := h.fileName?
  obtain ⟨around', step, hhead, _, _, rfl⟩ := hother.exists_step
  rw [Path.head?_steps_withExtension hname hslash, Option.some.injEq] at hhead
  intro heq
  have hlast : String.ofList name = String.ofList step :=
    (List.append_inj' heq rfl).2 |> List.singleton_inj.mp
  rw [← hhead] at hlast
  exact Path.stem_append_ne name hdot (String.ofList_injective hlast).symm

/-- Without a file name there is nothing to write to. -/
theorem openFile_of_fileName?_eq_none (h : path.fileName? = none) (tree : FileTree) :
    ∃ fault, tree.openFile path = .error fault := by
  unfold openFile
  split
  · next fault _ => exact ⟨fault, rfl⟩
  · exact ⟨.isDirectory, rfl⟩
  · next place slash hlocate =>
    obtain ⟨_, _, _, hname, _⟩ := Names.fileName? ⟨slash, hlocate⟩
    rw [h] at hname
    cases hname

end FileTree
end ServerLogin
