import Mathlib.Data.List.TakeWhile
import ServerLogin.Proofs.Text.Run
import ServerLogin.Url.Basic

/-!
The letter case of a scheme.  A URL is read the same however the letters before
its first colon are written, and the scheme that comes out is in lower case.
-/

namespace ServerLogin

open ServerLogin.Text

namespace Text

/-- What holds of a capital letter exactly when it holds of the small one does
not depend on the case. -/
theorem apply_lowerAscii {α : Type} (f : Char → α)
    (h : ∀ n < 26, f (Char.ofNat (97 + n)) = f (Char.ofNat (65 + n))) (c : Char) :
    f (lowerAscii c) = f c := by
  by_cases hc : 'A' ≤ c ∧ c ≤ 'Z'
  · have hlow : 65 ≤ c.toNat := hc.1
    have hhigh : c.toNat ≤ 90 := hc.2
    obtain ⟨n, hn⟩ := Nat.exists_eq_add_of_le hlow
    have hcap : c = Char.ofNat (65 + n) := by rw [← hn, Char.ofNat_toNat]
    have hsmall : lowerAscii c = Char.ofNat (97 + n) := by
      have : ∀ m < 26, lowerAscii (Char.ofNat (65 + m)) = Char.ofNat (97 + m) := by decide
      rw [hcap]
      exact this n (by omega)
    rw [hsmall, hcap]
    exact h n (by omega)
  · simp only [lowerAscii, hc, if_false]

@[simp] theorem lowerAscii_lowerAscii (c : Char) : lowerAscii (lowerAscii c) = lowerAscii c :=
  apply_lowerAscii lowerAscii (by decide) c

/-- Lowering the case keeps every test that treats both cases alike. -/
theorem all_map_lowerAscii {p : Char → Bool} (hp : ∀ c, p (lowerAscii c) = p c)
    (cs : List Char) : (cs.map lowerAscii).all p = cs.all p := by
  simp only [List.all_map, Function.comp_def, hp]

theorem head?_any_map_lowerAscii {p : Char → Bool} (hp : ∀ c, p (lowerAscii c) = p c)
    (cs : List Char) : (cs.map lowerAscii).head?.any p = cs.head?.any p := by
  cases cs with
  | nil => rfl
  | cons c rest => simp only [List.map_cons, List.head?_cons, Option.any_some, hp]

theorem dropWhile_map_lowerAscii {p : Char → Bool} (hp : ∀ c, p (lowerAscii c) = p c)
    (cs : List Char) : (cs.map lowerAscii).dropWhile p = (cs.dropWhile p).map lowerAscii := by
  simp only [List.dropWhile_map, Function.comp_def, hp]

theorem filter_map_lowerAscii {p : Char → Bool} (hp : ∀ c, p (lowerAscii c) = p c)
    (cs : List Char) : (cs.map lowerAscii).filter p = (cs.filter p).map lowerAscii := by
  simp only [List.filter_map, Function.comp_def, hp]

theorem colon_mem_map_lowerAscii {cs : List Char} : ':' ∈ cs.map lowerAscii ↔ ':' ∈ cs := by
  have hsame : ∀ c, (lowerAscii c = ':') = (c = ':') :=
    apply_lowerAscii (· = ':') (by decide)
  simp only [List.mem_map, hsame, exists_eq_right]

end Text

namespace Url

theorem isSchemeChar_lowerAscii (c : Char) : isSchemeChar (lowerAscii c) = isSchemeChar c :=
  apply_lowerAscii isSchemeChar (by decide) c

theorem isAlpha_lowerAscii (c : Char) : (lowerAscii c).isAlpha = c.isAlpha :=
  apply_lowerAscii Char.isAlpha (by decide) c

theorem isMargin_lowerAscii (c : Char) : isMargin (lowerAscii c) = isMargin c :=
  apply_lowerAscii isMargin (by decide) c

theorem isSignificant_lowerAscii (c : Char) : isSignificant (lowerAscii c) = isSignificant c :=
  apply_lowerAscii isSignificant (by decide) c

/-- The scheme is what stands before the first colon, when it is made of the
right characters. -/
theorem splitScheme?_append {name : List Char} (colon : ':' ∉ name) (rest : List Char) :
    splitScheme? (name ++ ':' :: rest) =
      if name.all isSchemeChar && name.head?.any Char.isAlpha then
        some (String.ofList (name.map lowerAscii), rest)
      else none := by
  by_cases hall : ∀ c ∈ name, isSchemeChar c = true
  · have htake : (name ++ ':' :: rest).takeWhile isSchemeChar = name :=
      takeWhile_run hall (by decide) rest
    have hdrop : (name ++ ':' :: rest).drop name.length = ':' :: rest := List.drop_left
    simp only [splitScheme?, htake, hdrop, List.all_eq_true.mpr hall, Bool.true_and]
    cases name with
    | nil => rfl
    | cons c more => rfl
  · have hnone : name.all isSchemeChar = false := by
      rw [← Bool.not_eq_true, List.all_eq_true]
      exact hall
    obtain ⟨d, post, hdrop⟩ := List.exists_cons_of_ne_nil
      (mt List.dropWhile_eq_nil_iff.mp hall)
    have hsplit := (List.takeWhile_append_dropWhile (p := isSchemeChar) (l := name)).symm
    have hpre := fun c (hc : c ∈ name.takeWhile isSchemeChar) => List.mem_takeWhile_imp hc
    have hd : isSchemeChar d = false := by
      simpa [hdrop] using List.head?_dropWhile_not isSchemeChar name
    rw [hdrop] at hsplit
    generalize name.takeWhile isSchemeChar = pre at hsplit hpre
    have hdcolon : d ≠ ':' := by
      rintro rfl
      exact colon (by simp [hsplit])
    have htake : (name ++ ':' :: rest).takeWhile isSchemeChar = pre := by
      rw [hsplit, List.append_assoc, List.cons_append]
      exact takeWhile_run hpre hd _
    have hdrop : (name ++ ':' :: rest).drop pre.length = d :: (post ++ ':' :: rest) := by
      rw [hsplit, List.append_assoc, List.cons_append]
      exact List.drop_left
    simp only [splitScheme?, htake, hdrop, hnone, Bool.false_and, Bool.false_eq_true, if_false]
    split
    · next heq => exact absurd (List.cons.inj heq).1 hdcolon
    · rfl

/-- Behind the characters that are passed over, the part before the first colon
and the part behind it can be taken apart. -/
theorem significant_append {name : List Char} (rest : List Char) :
    significant (String.ofList (name ++ ':' :: rest)) =
      (name.dropWhile isMargin).filter isSignificant ++
        ':' :: ((rest.reverse.dropWhile isMargin).reverse).filter isSignificant := by
  have hfront : (name ++ ':' :: rest).dropWhile isMargin
      = name.dropWhile isMargin ++ ':' :: rest := by
    rw [List.dropWhile_append, List.dropWhile_cons_of_neg (by decide)]
    split
    · next hempty => rw [List.isEmpty_iff.mp hempty, List.nil_append]
    · rfl
  have hback : ∀ front : List Char, (front ++ ':' :: rest).reverse.dropWhile isMargin
      = rest.reverse.dropWhile isMargin ++ ':' :: front.reverse := by
    intro front
    rw [List.reverse_append, List.reverse_cons, List.append_assoc, List.singleton_append,
      List.dropWhile_append, List.dropWhile_cons_of_neg (by decide)]
    split
    · next hempty => rw [List.isEmpty_iff.mp hempty, List.nil_append]
    · rfl
  rw [significant, String.toList_ofList, hfront, hback, List.reverse_append,
    List.reverse_cons, List.reverse_reverse, List.append_assoc, List.singleton_append,
    List.filter_append, List.filter_cons_of_pos (by decide)]

/-- What is read depends on the letters before the first colon only up to their
case. -/
theorem splitScheme?_significant {name : List Char} (colon : ':' ∉ name) (rest : List Char) :
    splitScheme? (significant (String.ofList (name ++ ':' :: rest))) =
      let lowered := ((name.map lowerAscii).dropWhile isMargin).filter isSignificant
      if lowered.all isSchemeChar && lowered.head?.any Char.isAlpha then
        some (String.ofList lowered,
          ((rest.reverse.dropWhile isMargin).reverse).filter isSignificant)
      else none := by
  have hcolon : ':' ∉ (name.dropWhile isMargin).filter isSignificant := by
    intro h
    exact colon ((List.dropWhile_sublist _).subset (List.mem_filter.mp h).1)
  rw [significant_append, splitScheme?_append hcolon]
  simp only [dropWhile_map_lowerAscii isMargin_lowerAscii,
    filter_map_lowerAscii isSignificant_lowerAscii, all_map_lowerAscii isSchemeChar_lowerAscii,
    head?_any_map_lowerAscii isAlpha_lowerAscii]

/-- Texts that differ at most in the case of the letters before their first
colon. -/
inductive SchemeCase : String → String → Prop
  | intro {name other : List Char} (rest : List Char) (colon : ':' ∉ name)
      (same : sameIgnoringCase name other = true) :
      SchemeCase (String.ofList (name ++ ':' :: rest)) (String.ofList (other ++ ':' :: rest))

theorem colon_notMem_of_same {name other : List Char} (colon : ':' ∉ name)
    (same : sameIgnoringCase name other = true) : ':' ∉ other := by
  have hlower : name.map lowerAscii = other.map lowerAscii := by
    simpa [sameIgnoringCase] using same
  rwa [← colon_mem_map_lowerAscii, ← hlower, colon_mem_map_lowerAscii]

theorem read_eq_of_schemeCase {s t : String} (h : SchemeCase s t) : read s = read t := by
  obtain ⟨rest, colon, same⟩ := h
  next name other =>
    have hlower : name.map lowerAscii = other.map lowerAscii := by
      simpa [sameIgnoringCase] using same
    have hother := colon_notMem_of_same colon same
    simp only [read, splitScheme?_significant colon, splitScheme?_significant hother, hlower]

theorem scheme_of_readAuthority {scheme : String} {kind : Kind} {cs : List Char} {url : Url}
    (h : readAuthority scheme kind cs = .ok url) : url.scheme = scheme := by
  simp only [readAuthority, bind, Except.bind, pure, Except.pure, throw, throwThe,
    MonadExceptOf.throw] at h
  repeat' split at h
  all_goals first
    | cases h; rfl
    | cases h

theorem scheme_of_readFile {cs : List Char} {url : Url}
    (h : readFile cs = .ok url) : url.scheme = "file" := by
  simp only [readFile] at h
  repeat' split at h
  all_goals first
    | cases h; rfl
    | cases h

theorem kindOf_eq_file {scheme : String} (h : kindOf scheme = .file) : scheme = "file" := by
  unfold kindOf at h
  split at h
  · cases h
  · split at h
    · assumption
    · cases h

theorem scheme_of_read {s : String} {url : Url} (h : read s = .ok url) :
    ∃ rest, splitScheme? (significant s) = some (url.scheme, rest) := by
  simp only [read] at h
  split at h
  · cases h
  · next scheme rest hsplit =>
    refine ⟨rest, ?_⟩
    rw [hsplit]
    split at h
    · rw [scheme_of_readAuthority h]
    · next hkind =>
      rw [scheme_of_readFile h, kindOf_eq_file hkind]
    · split at h
      · rw [scheme_of_readAuthority h]
      · cases h
        rfl

theorem scheme_lower_of_splitScheme? {cs rest : List Char} {scheme : String}
    (h : splitScheme? cs = some (scheme, rest)) :
    scheme.toList.map lowerAscii = scheme.toList := by
  simp only [splitScheme?] at h
  split at h
  · split at h
    · cases h
      simp [Function.comp_def]
    · cases h
  · cases h

/-- The scheme of a URL is in lower case. -/
theorem scheme_lower_of_read {s : String} {url : Url} (h : read s = .ok url) :
    url.scheme.toList.map lowerAscii = url.scheme.toList := by
  obtain ⟨rest, hsplit⟩ := scheme_of_read h
  exact scheme_lower_of_splitScheme? hsplit

end Url
end ServerLogin
