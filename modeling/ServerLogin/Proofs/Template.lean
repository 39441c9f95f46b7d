import Mathlib.Algebra.Order.BigOperators.Group.List
import Mathlib.Algebra.Order.Group.Nat
import ServerLogin.Environment
import ServerLogin.Template

/-!
When a text stands for itself.  A text is made of the sources of its segments, so
its expansion is the text itself if no segment is replaced; and an environment
that replaces one shows up in the length.
-/

namespace ServerLogin.Template

/-- A segment as it is written. -/
def Segment.source : Segment → List Char
  | .char c => [c]
  | .dollar => ['$', '$']
  | .reference name fallback => (referenceSource name fallback).toList

/-- Whether a segment stands for its source whatever the variables are. -/
def Segment.isFixed : Segment → Bool
  | .char _ => true
  | .dollar => false
  | .reference name _ => !isAllowed name

/-- Whether a text holds no doubled dollar sign and no reference that may be
expanded. -/
def isFixed (template : String) : Bool := (parse template.toList).all Segment.isFixed

theorem toList_referenceSource_none (name : String) :
    (referenceSource name none).toList = '$' :: '\x7b' :: name.toList ++ ['\x7d'] := by
  rw [referenceSource, String.toList_append, String.toList_append]
  rfl

theorem toList_referenceSource_some (name text : String) :
    (referenceSource name (some text)).toList =
      '$' :: '\x7b' :: name.toList ++ ':' :: '-' :: text.toList ++ ['\x7d'] := by
  rw [referenceSource, String.toList_append, String.toList_append, String.toList_append,
    String.toList_append]
  simp only [List.append_assoc]
  rfl

/-- A reference is read from its source. -/
theorem source_of_reference? {cs rest : List Char} {segment : Segment}
    (h : reference? cs = some (segment, rest)) :
    segment.source ++ rest = '$' :: '\x7b' :: cs := by
  have hname : cs.takeWhile inName ++ cs.dropWhile inName = cs := List.takeWhile_append_dropWhile
  unfold reference? at h
  dsimp only at h
  split at h
  · cases h
  · split at h
    · next heq =>
      cases h
      rw [heq] at hname
      rw [Segment.source, toList_referenceSource_none, String.toList_ofList]
      simpa using hname
    · next more heq =>
      have hfallback : more.takeWhile (· ≠ '\x7d') ++ more.dropWhile (· ≠ '\x7d') = more :=
        List.takeWhile_append_dropWhile
      rw [heq] at hname
      split at h
      · next heq' =>
        cases h
        rw [heq'] at hfallback
        rw [Segment.source, toList_referenceSource_some, String.toList_ofList,
          String.toList_ofList]
        have hsource : cs.takeWhile inName ++ ':' :: '-' ::
            (more.takeWhile (· ≠ '\x7d') ++ '\x7d' :: rest) = cs := by
          rw [hfallback, hname]
        simpa using hsource
      · cases h
    · cases h

theorem parse_reference {cs rest : List Char} {segment : Segment}
    (h : reference? cs = some (segment, rest)) :
    parse ('$' :: '\x7b' :: cs) = segment :: parse rest := by
  rw [parse]
  split
  · next heq =>
    rw [h] at heq
    cases heq
    rfl
  · next heq =>
    rw [h] at heq
    cases heq

theorem parse_brace {cs : List Char} (h : reference? cs = none) :
    parse ('$' :: '\x7b' :: cs) = .char '$' :: parse ('\x7b' :: cs) := by
  rw [parse]
  split
  · next heq =>
    rw [h] at heq
    cases heq
  · rfl

theorem flatMap_source_parse (cs : List Char) : (parse cs).flatMap Segment.source = cs := by
  induction cs using parse.induct with
  | case1 => rw [parse, List.flatMap_nil]
  | case2 rest ih => rw [parse, List.flatMap_cons, ih]; rfl
  | case3 rest segment rest' h ih =>
    rw [parse_reference h, List.flatMap_cons, ih, source_of_reference? h]
  | case4 rest h ih =>
    rw [parse_brace h, List.flatMap_cons, ih]
    rfl
  | case5 c rest hdollar hbrace ih =>
    rw [parse, List.flatMap_cons, ih]
    · rfl
    · exact hdollar
    · exact hbrace

theorem toList_value_of_isFixed {segment : Segment} (h : segment.isFixed = true)
    (lookup : String → Option String) :
    (segment.value false lookup).toList = segment.source := by
  cases segment with
  | char c => exact String.toList_singleton c
  | dollar => cases h
  | reference name fallback =>
    rw [Segment.isFixed, Bool.not_eq_true'] at h
    rw [Segment.value, h]
    rfl

theorem toList_expand (allowAll : Bool) (lookup : String → Option String) (template : String) :
    (expand allowAll lookup template).toList =
      (parse template.toList).flatMap fun segment => (segment.value allowAll lookup).toList := by
  rw [expand, String.toList_join, List.flatMap_map]

theorem expand_of_isFixed {template : String} (h : isFixed template = true)
    (lookup : String → Option String) : expand false lookup template = template := by
  have hvalue : ∀ segment ∈ parse template.toList,
      (segment.value false lookup).toList = segment.source := fun segment hsegment =>
    toList_value_of_isFixed (List.all_eq_true.mp h segment hsegment) lookup
  rw [← String.toList_inj, toList_expand, List.flatMap_congr hvalue, flatMap_source_parse]

/-- Without references that may be expanded, each doubled dollar sign makes the
expansion shorter. -/
theorem length_expand_lt {template : String} (hdollar : .dollar ∈ parse template.toList)
    (hrefused : ∀ name fallback, .reference name fallback ∈ parse template.toList →
      isAllowed name = false) (lookup : String → Option String) :
    (expand false lookup template).toList.length < template.toList.length := by
  have hsource := congrArg List.length (flatMap_source_parse template.toList)
  rw [toList_expand, ← hsource, List.length_flatMap, List.length_flatMap]
  have hshort : (Segment.dollar.value false lookup).toList.length <
      Segment.dollar.source.length := by
    rw [Segment.value]
    decide
  refine List.sum_lt_sum _ _ (fun segment hsegment => ?_) ⟨.dollar, hdollar, hshort⟩
  cases segment with
  | char c => rw [toList_value_of_isFixed rfl]
  | dollar => exact Nat.le_of_lt hshort
  | reference name fallback =>
    have hfixed : (Segment.reference name fallback).isFixed = true := by
      rw [Segment.isFixed, hrefused name fallback hsegment]
      rfl
    rw [toList_value_of_isFixed hfixed]

/-- The value of a variable that may be expanded is part of the expansion. -/
theorem length_le_length_expand {template name value : String} {fallback : Option String}
    (hreference : .reference name fallback ∈ parse template.toList)
    (hallowed : isAllowed name = true) {lookup : String → Option String}
    (hvalue : lookup name = some value) :
    value.toList.length ≤ (expand false lookup template).toList.length := by
  have hsegment : (Segment.reference name fallback).value false lookup = value := by
    rw [Segment.value, hallowed, hvalue]
    rfl
  obtain ⟨before, after, hsplit⟩ := List.append_of_mem hreference
  rw [toList_expand, hsplit, List.flatMap_append, List.flatMap_cons, hsegment,
    List.length_append, List.length_append]
  omega

/-- The texts that are their own expansion in every environment. -/
theorem isFixed_iff (template : String) : isFixed template = true ↔
    ∀ env : Environment, expand false env.text? template = template := by
  constructor
  · exact fun h env => expand_of_isFixed h env.text?
  · intro h
    rw [isFixed, List.all_eq_true]
    have hrefused : ∀ name fallback, .reference name fallback ∈ parse template.toList →
        isAllowed name = false := by
      intro name fallback hreference
      rw [← Bool.not_eq_true]
      intro hallowed
      have hlookup : (Environment.mk [(name, .text (template ++ "x"))]).text? name =
          some (template ++ "x") := by
        rw [Environment.text?, List.lookup_cons, beq_self_eq_true]
      have hlength := length_le_length_expand hreference hallowed hlookup
      rw [h, String.toList_append, List.length_append] at hlength
      exact Nat.not_succ_le_self _ hlength
    intro segment hsegment
    cases segment with
    | char c => rfl
    | dollar =>
      have hlength := length_expand_lt hsegment hrefused (Environment.mk []).text?
      rw [h] at hlength
      exact absurd hlength (Nat.lt_irrefl _)
    | reference name fallback =>
      rw [Segment.isFixed, hrefused name fallback hsegment]
      rfl

end ServerLogin.Template
