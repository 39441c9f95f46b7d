import ServerLogin.Proofs.RawArguments.Value

/-!
Comments in raw arguments.  A value is read in one pass, which takes an escape as two
characters and stops at a comment.  The pass comes to this: the text is cut off in front of its
first comment, then every escape is replaced (`unescape_eq_replaceEscapes`), and then the blanks
at the ends are removed.
-/

namespace ServerLogin

namespace Text

/-- Replace every occurrence of one text by another, from the front on. -/
def replaceAll (old new : List Char) : List Char → List Char
  | [] => []
  | c :: rest =>
    if old.isPrefixOf (c :: rest) then
      new ++ replaceAll old new (rest.drop (old.length - 1))
    else c :: replaceAll old new rest
termination_by cs => cs.length
decreasing_by all_goals simp only [List.length_drop, List.length_cons]; omega

end Text

open ServerLogin.Text

namespace RawArguments

/-- The characters of a text, each behind the one right before it; `before` is what stands
right before the text. -/
def withBefore (before : Option Char) (cs : List Char) : List (Option Char × Char) :=
  (before :: cs.map some).zip cs

/-- A number sign begins a comment unless a backslash stands right before it. -/
def beginsComment (place : Option Char × Char) : Bool :=
  place.2 == '#' && place.1 != some '\\'

/-- A text up to its first comment. -/
def uncommented (before : Option Char) (cs : List Char) : List Char :=
  ((withBefore before cs).takeWhile (!beginsComment ·)).map Prod.snd

def replaceEscapes (cs : List Char) : List Char := replaceAll "\\#".toList "#".toList cs

theorem uncommented_cons (before : Option Char) (c : Char) (rest : List Char) :
    uncommented before (c :: rest) =
      if beginsComment (before, c) then [] else c :: uncommented (some c) rest := by
  have hpairs : withBefore before (c :: rest) = (before, c) :: withBefore (some c) rest := rfl
  rw [uncommented, hpairs, List.takeWhile_cons]
  cases beginsComment (before, c) <;> rfl

/-- What stands in front of a text matters only to a number sign at its start. -/
theorem uncommented_congr {cs : List Char} (h : cs.head? ≠ some '#') (before other : Option Char) :
    uncommented before cs = uncommented other cs := by
  cases cs with
  | nil => rfl
  | cons c rest =>
    have hc : (c == '#') = false := by simpa using h
    simp only [uncommented_cons, beginsComment, hc, Bool.false_and]

theorem head?_uncommented {cs : List Char} (h : cs.head? ≠ some '#') (before : Option Char) :
    (uncommented before cs).head? ≠ some '#' := by
  cases cs with
  | nil => exact h
  | cons c rest =>
    rw [uncommented_cons]
    split
    · simp
    · exact h

@[simp] theorem uncommented_nil (before : Option Char) : uncommented before [] = [] := rfl

@[simp] theorem replaceEscapes_nil : replaceEscapes [] = [] := by
  rw [replaceEscapes, replaceAll]

theorem replaceEscapes_escape (rest : List Char) :
    replaceEscapes ('\\' :: '#' :: rest) = '#' :: replaceEscapes rest := by
  rw [replaceEscapes, replaceAll]
  rfl

theorem replaceEscapes_cons {c : Char} {rest : List Char}
    (h : c = '\\' → rest.head? ≠ some '#') :
    replaceEscapes (c :: rest) = c :: replaceEscapes rest := by
  have hother : "\\#".toList.isPrefixOf (c :: rest) = false := by
    rw [← Bool.not_eq_true, List.isPrefixOf_iff_prefix]
    rintro ⟨more, hmore⟩
    obtain ⟨rfl, rfl⟩ := List.cons.inj hmore
    exact h rfl rfl
  rw [replaceEscapes, replaceAll, hother]
  rfl

/-- Reading in one pass is cutting the comment off and then replacing the escapes.  No backslash
is left behind by the pass: one in front of a number sign was taken together with it. -/
theorem unescape_eq_replaceEscapes (raw : List Char) (before : Option Char)
    (h : before ≠ some '\\') : unescape raw = replaceEscapes (uncommented before raw) := by
  induction raw using unescape.induct generalizing before with
  | case1 rest ih =>
    have hescape : uncommented before ('\\' :: '#' :: rest) =
        '\\' :: '#' :: uncommented (some '#') rest := by
      simp [uncommented_cons, beginsComment]
    rw [unescape, hescape, replaceEscapes_escape, ← ih (some '#') (by decide)]
  | case2 rest =>
    have hcomment : uncommented before ('#' :: rest) = [] := by
      simp [uncommented_cons, beginsComment, h]
    rw [unescape, hcomment, replaceEscapes_nil]
  | case3 c rest hescape hcomment ih =>
    have hc : c ≠ '#' := hcomment
    have hrest : c = '\\' → rest.head? ≠ some '#' := by
      intro hslash hhead
      obtain ⟨more, rfl⟩ := List.head?_eq_some_iff.mp hhead
      exact hescape more hslash rfl
    have hkept : uncommented before (c :: rest) = c :: uncommented (some c) rest := by
      simp [uncommented_cons, beginsComment, hc]
    -- a backslash is no escape here, so a sign does not come next and it may be forgotten
    have hread : unescape rest = replaceEscapes (uncommented (some c) rest) := by
      by_cases hslash : c = '\\'
      · rw [uncommented_congr (hrest hslash) (some c) none]
        exact ih none (by decide)
      · exact ih (some c) (by simpa using hslash)
    rw [unescape_cons_of_ne hc hrest, hread, hkept,
      replaceEscapes_cons fun hslash => head?_uncommented (hrest hslash) _]
  | case4 => rw [unescape, uncommented_nil, replaceEscapes_nil]

/-- The value of a raw text: the text is cut off just before the first number sign that no
backslash stands right before, every `\#` in what is left is replaced by `#`, and the result is
trimmed. -/
theorem value_eq_trim_replaceAll (raw : List Char) :
    value raw =
      trim (String.ofList (replaceAll "\\#".toList "#".toList (uncommented none raw))) := by
  rw [value, unescape_eq_replaceEscapes raw none (by decide), trim,
    String.toList_ofList, replaceEscapes]

/-- A backslash in front of an escape is kept, and a sign right behind one begins a comment. -/
example : value "\\\\#b\\##c".toList = "\\#b#" := by decide

end RawArguments
end ServerLogin
