import Mathlib.Data.List.DropRight
import ServerLogin.RawArguments

/-!
Values of raw arguments.  A value is written with a backslash in front of every
number sign; `read_written` says that an argument written this way is read as the
trimmed value, whatever comment stands behind it.
-/

namespace ServerLogin

namespace Text

theorem trimChars_append_blank (cs : List Char) {b : Char} (hb : isBlank b = true) :
    trimChars (cs ++ [b]) = trimChars cs := by
  rw [trimChars, trimChars, List.dropWhile_append, List.dropWhile_cons_of_pos hb]
  split
  · next hempty => rw [List.isEmpty_iff.mp hempty, List.dropWhile_nil]
  · rw [trimEnd, List.reverse_append, List.reverse_singleton, List.singleton_append,
      List.dropWhile_cons_of_pos hb, trimEnd]

theorem trimChars_of_forall {cs : List Char} (h : ∀ c ∈ cs, isBlank c = false) :
    trimChars cs = cs := by
  have hdrop : ∀ ds : List Char, (∀ c ∈ ds, isBlank c = false) → ds.dropWhile isBlank = ds := by
    intro ds hds
    cases ds with
    | nil => rfl
    | cons c rest => exact List.dropWhile_cons_of_neg (by simp [hds c List.mem_cons_self])
  rw [trimChars, hdrop cs h, trimEnd,
    hdrop cs.reverse (fun c hc => h c (List.mem_reverse.mp hc)), List.reverse_reverse]

theorem trimChars_trimChars (cs : List Char) : trimChars (trimChars cs) = trimChars cs := by
  have hhead : ∀ c, (cs.dropWhile isBlank).head? = some c → isBlank c = false := by
    intro c hc
    simpa [hc] using List.head?_dropWhile_not isBlank cs
  have hfront : (trimChars cs).dropWhile isBlank = trimChars cs := by
    obtain ⟨blanks, hsplit⟩ := List.rdropWhile_prefix isBlank (l := cs.dropWhile isBlank)
    change trimChars cs ++ blanks = cs.dropWhile isBlank at hsplit
    cases htrim : trimChars cs with
    | nil => rfl
    | cons c rest =>
      rw [htrim] at hsplit
      exact List.dropWhile_cons_of_neg (by simp [hhead c (by rw [← hsplit]; rfl)])
  calc trimChars (trimChars cs)
      = ((trimChars cs).dropWhile isBlank).rdropWhile isBlank := rfl
    _ = (trimChars cs).rdropWhile isBlank := by rw [hfront]
    _ = trimChars cs := List.rdropWhile_idempotent isBlank _

theorem isBlank_of_isDigit {c : Char} (h : c.isDigit = true) : isBlank c = false := by
  simp only [Char.isDigit, Bool.and_eq_true, decide_eq_true_eq] at h
  have hlow : 48 ≤ c.toNat := h.1
  have hhigh : c.toNat ≤ 57 := h.2
  simp [isBlank]
  omega

end Text

open ServerLogin.Text

namespace RawArguments

/-- A value as it is written: a backslash stands in front of every number sign. -/
def escape (cs : List Char) : List Char :=
  cs.flatMap fun c => if c = '#' then ['\\', '#'] else [c]

theorem escape_cons_of_ne {c : Char} (hc : c ≠ '#') (cs : List Char) :
    escape (c :: cs) = c :: escape cs := by
  simp only [escape, List.flatMap_cons, hc, if_false, List.singleton_append]

theorem unescape_cons_of_ne {c : Char} (hc : c ≠ '#') {rest : List Char}
    (hrest : c = '\\' → rest.head? ≠ some '#') : unescape (c :: rest) = c :: unescape rest := by
  rw [unescape.eq_def]
  split
  · next heq =>
    obtain ⟨rfl, rfl⟩ := List.cons.inj heq
    exact absurd rfl (hrest rfl)
  · next heq => exact absurd (List.cons.inj heq).1 hc
  · next heq =>
    obtain ⟨rfl, rfl⟩ := List.cons.inj heq
    rfl
  · next heq => cases heq

/-- No number sign follows the escaped text unless one stands behind it. -/
theorem escape_append_head? {cs rest : List Char} (hrest : rest.head? ≠ some '#') :
    (escape cs ++ rest).head? ≠ some '#' := by
  cases cs with
  | nil => exact hrest
  | cons c more =>
    by_cases hc : c = '#'
    · subst hc
      simp [escape]
    · rw [escape_cons_of_ne hc]
      simpa using hc

/-- An escaped value is read back in front of anything but a number sign. -/
theorem unescape_escape_append (cs : List Char) {rest : List Char}
    (hrest : rest.head? ≠ some '#') :
    unescape (escape cs ++ rest) = cs ++ unescape rest := by
  induction cs with
  | nil => rfl
  | cons c more ih =>
    by_cases hc : c = '#'
    · subst hc
      have hsplit : escape ('#' :: more) ++ rest = '\\' :: '#' :: (escape more ++ rest) := rfl
      rw [hsplit, unescape, ih, List.cons_append]
    · rw [escape_cons_of_ne hc, List.cons_append,
        unescape_cons_of_ne hc (fun _ => escape_append_head? hrest), ih, List.cons_append]

/-- What stands behind a value: nothing, or a blank and a comment. -/
def commentText : Option String → List Char
  | none => []
  | some text => ' ' :: '#' :: text.toList

/-- An argument that gives a value to a key, perhaps with a comment behind it. -/
def written (key : Key) (value : String) (comment : Option String) : String :=
  String.ofList ("--omero.".toList ++
    (key.name.toList ++ '=' :: (escape value.toList ++ commentText comment)))

theorem toList_written (key : Key) (value : String) (comment : Option String) :
    (written key value comment).toList = "--omero.".toList ++
      (key.name.toList ++ '=' :: (escape value.toList ++ commentText comment)) :=
  String.toList_ofList

theorem value_escape (value : String) (comment : Option String) :
    RawArguments.value (escape value.toList ++ commentText comment) = trim value := by
  cases comment with
  | none =>
    rw [RawArguments.value, commentText, unescape_escape_append _ (by simp), unescape,
      List.append_nil, trim]
  | some text =>
    rw [RawArguments.value, commentText, unescape_escape_append _ (by simp),
      unescape_cons_of_ne (by decide) (fun h => absurd h (by decide)), unescape,
      trimChars_append_blank _ rfl, trim]

theorem after?_append (mark rest : List Char) : after? mark (mark ++ rest) = some rest := by
  rw [after?, List.isPrefixOf_iff_prefix.mpr (List.prefix_append mark rest), if_pos rfl,
    List.drop_left]

theorem splitEquals?_append {name : List Char} (hname : '=' ∉ name) (raw : List Char) :
    splitEquals? (name ++ '=' :: raw) = some (name, raw) := by
  induction name with
  | nil => rfl
  | cons c more ih =>
    rw [List.mem_cons, not_or] at hname
    rw [List.cons_append, splitEquals?, if_neg (Ne.symm hname.1), ih hname.2, Option.map_some]

theorem splitEquals?_eq_none {cs : List Char} (h : '=' ∉ cs) : splitEquals? cs = none := by
  induction cs with
  | nil => rfl
  | cons c more ih =>
    rw [List.mem_cons, not_or] at h
    rw [splitEquals?, if_neg (Ne.symm h.1), ih h.2, Option.map_none]

namespace Key

theorem equals_notMem_name (key : Key) : '=' ∉ key.name.toList := by
  cases key <;> decide

theorem trim_name (key : Key) : trim key.name = key.name := by
  cases key <;> decide

@[simp] theorem ofName?_name (key : Key) : ofName? key.name = some key := by
  cases key <;> decide

theorem ofName?_eq_none_iff {name : String} :
    ofName? name = none ↔ ∀ key : Key, key.name ≠ name := by
  rw [ofName?, List.find?_eq_none]
  constructor
  · intro h key
    have hmem : key ∈ all := by cases key <;> decide
    simpa using h key hmem
  · intro h key _
    simpa using h key

theorem ofName?_eq_some_iff {name : String} {key : Key} :
    ofName? name = some key ↔ key.name = name := by
  constructor
  · intro h
    have hfound := List.find?_some (show all.find? (·.name == name) = some key from h)
    exact beq_iff_eq.mp hfound
  · rintro rfl
    exact ofName?_name key

end Key

/-- A written argument is read as its key and the trimmed value. -/
theorem read_written (key : Key) (value : String) (comment : Option String) :
    read (written key value comment) = .property key (trim value) := by
  have hname : Key.ofName? (String.ofList (trimChars key.name.toList)) = some key := by
    rw [← trim, Key.trim_name, Key.ofName?_name]
  rw [read, toList_written, after?_append]
  simp only [splitEquals?_append key.equals_notMem_name, hname, value_escape]

/-- Arguments that give no value: they do not begin with the mark, have no equals
sign, or name an unknown key. -/
inductive Unread : String → Prop
  | foreign {argument : String} (h : ¬"--omero.".toList <+: argument.toList) : Unread argument
  | bare {argument : String} (h : '=' ∉ argument.toList) : Unread argument
  | unknown {name : List Char} (raw : List Char) (hname : '=' ∉ name)
      (h : ∀ key : Key, key.name ≠ trim (String.ofList name)) :
      Unread (String.ofList ("--omero.".toList ++ (name ++ '=' :: raw)))

theorem read_of_unread {argument : String} (h : Unread argument) :
    ∃ message, read argument = .skipped message := by
  cases h with
  | foreign h =>
    have hnone : after? "--omero.".toList argument.toList = none := by
      rw [after?, if_neg (by rwa [List.isPrefixOf_iff_prefix])]
    exact ⟨"Skipping unrecognised connection argument " ++ quote argument, by rw [read, hnone]⟩
  | bare h =>
    cases hafter : after? "--omero.".toList argument.toList with
    | none =>
      exact ⟨"Skipping unrecognised connection argument " ++ quote argument,
        by rw [read, hafter]⟩
    | some rest =>
      have hrest : '=' ∉ rest := by
        simp only [after?, Option.ite_none_right_eq_some, Option.some.injEq] at hafter
        exact fun hmem => h (List.mem_of_mem_drop (hafter.2 ▸ hmem))
      refine ⟨"Skipping connection argument without value " ++ quote argument, ?_⟩
      rw [read, hafter]
      simp only [splitEquals?_eq_none hrest]
  | @unknown name raw hname h =>
    have hnone : Key.ofName? (String.ofList (trimChars name)) = none := by
      rw [Key.ofName?_eq_none_iff]
      simpa only [trim, String.toList_ofList] using h
    have htext : (String.ofList ("--omero.".toList ++ (name ++ '=' :: raw))).toList =
        "--omero.".toList ++ (name ++ '=' :: raw) := String.toList_ofList
    refine ⟨"Ignoring unknown property omero." ++ String.ofList (trimChars name), ?_⟩
    rw [read, htext, after?_append]
    simp only [splitEquals?_append hname, hnone]

end RawArguments
end ServerLogin
