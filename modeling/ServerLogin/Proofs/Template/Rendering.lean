import ServerLogin.Proofs.Template
import ServerLogin.Proofs.Text.Run

/-!
What a template says.  Its author puts it together from texts and references and
doubles the dollar signs of the texts.  Taking the template apart finds these parts
again, so that expansion gives back the texts as they were meant, and the value of
each reference between them.
-/

namespace ServerLogin.Template

open ServerLogin.Text

/-- The names of variables: a letter or an underscore, and behind it letters, digits
and underscores. -/
def IsName (name : String) : Prop :=
  ∃ c rest, name.toList = c :: rest ∧ (c.isAlpha = true ∨ c = '_') ∧
    ∀ d ∈ rest, d.isAlphanum = true ∨ d = '_'

/-- A reference to a variable.  A closing brace would end the fallback. -/
structure Reference where
  name : String
  fallback : Option String
  isName : IsName name
  closed : ∀ text ∈ fallback, '\x7d' ∉ text.toList

/-- The parts that a template is put together from. -/
inductive Part
  | text (content : String)
  | reference (r : Reference)

def doubleDollars (text : String) : String :=
  String.ofList (text.toList.flatMap fun c => if c = '$' then ['$', '$'] else [c])

def Reference.source (r : Reference) : String := referenceSource r.name r.fallback

def Part.source : Part → String
  | .text content => doubleDollars content
  | .reference r => r.source

/-- The template that is put together from some parts. -/
def render (parts : List Part) : String := String.join (parts.map Part.source)

/-- The variables that may be referred to: all of them if the template is free to,
otherwise those named `OMERO_…` and a few more. -/
def MayRefer (allowAll : Bool) (name : String) : Prop :=
  allowAll = true ∨ "OMERO_".toList <+: name.toList ∨ name ∈ allowedNames

instance (allowAll : Bool) (name : String) : Decidable (MayRefer allowAll name) :=
  inferInstanceAs (Decidable (_ ∨ _ ∨ _))

/-- The value of a reference: that of its variable, else its fallback, else its own
source, which also stands for a variable that may not be referred to. -/
def Reference.value (allowAll : Bool) (lookup : String → Option String) (r : Reference) :
    String :=
  if MayRefer allowAll r.name then
    match lookup r.name, r.fallback with
    | some value, _ => value
    | none, some fallback => fallback
    | none, none => r.source
  else r.source

def Part.meaning (allowAll : Bool) (lookup : String → Option String) : Part → String
  | .text content => content
  | .reference r => r.value allowAll lookup

/-- The reference that is left in place because it may not be made. -/
def Part.refused? (allowAll : Bool) : Part → Option Reference
  | .text _ => none
  | .reference r => if MayRefer allowAll r.name then none else some r

/-- The segments that a part is taken apart into. -/
def Part.segments : Part → List Segment
  | .text content => content.toList.map fun c => if c = '$' then .dollar else .char c
  | .reference r => [.reference r.name r.fallback]

theorem mayRefer_iff {allowAll : Bool} {name : String} :
    (allowAll || isAllowed name) = true ↔ MayRefer allowAll name := by
  rw [MayRefer, isAllowed, Bool.or_eq_true, Bool.or_eq_true, List.isPrefixOf_iff_prefix,
    List.contains_iff_mem]

theorem parse_char {c : Char} (hc : c ≠ '$') (rest : List Char) :
    parse (c :: rest) = .char c :: parse rest := by
  rw [parse]
  · intro _ h
    exact absurd h hc
  · intro _ h
    exact absurd h hc

/-- A doubled text is taken apart character by character. -/
theorem parse_doubleDollars_append (text : String) (rest : List Char) :
    parse ((doubleDollars text).toList ++ rest) = (Part.text text).segments ++ parse rest := by
  rw [doubleDollars, String.toList_ofList, Part.segments]
  induction text.toList with
  | nil => rfl
  | cons c cs ih =>
    rw [List.flatMap_cons, List.map_cons, List.cons_append, ← ih]
    by_cases hc : c = '$'
    · subst hc
      rw [if_pos rfl, if_pos rfl]
      exact parse.eq_2 _
    · rw [if_neg hc, if_neg hc]
      exact parse_char hc _

section Name

variable {name : String} (h : IsName name)
include h

theorem IsName.inName {c : Char} (hc : c ∈ name.toList) : inName c = true := by
  obtain ⟨first, rest, hname, hfirst, hrest⟩ := h
  rw [hname, List.mem_cons] at hc
  rw [Template.inName, Bool.or_eq_true, beq_iff_eq]
  rcases hc with rfl | hc
  · refine hfirst.imp_left fun halpha => ?_
    rw [Char.isAlphanum, halpha, Bool.true_or]
  · exact hrest c hc

theorem IsName.startsName : name.toList.head?.any startsName = true := by
  obtain ⟨first, rest, hname, hfirst, _⟩ := h
  rw [hname, List.head?_cons, Option.any_some, Template.startsName, Bool.or_eq_true, beq_iff_eq]
  exact hfirst

/-- A name ends where a character stands that no name has. -/
theorem reference?_name (rest : List Char) :
    reference? (name.toList ++ '\x7d' :: rest) = some (.reference name none, rest) := by
  have hrun : ∀ c ∈ name.toList, Template.inName c = true := fun c hc => h.inName hc
  rw [reference?, takeWhile_run hrun (by decide), dropWhile_run hrun (by decide), h.startsName,
    String.ofList_toList]
  rfl

/-- A fallback ends at the first closing brace. -/
theorem reference?_fallback {fallback : String} (hclosed : '\x7d' ∉ fallback.toList)
    (rest : List Char) :
    reference? (name.toList ++ ':' :: '-' :: (fallback.toList ++ '\x7d' :: rest)) =
      some (.reference name (some fallback), rest) := by
  have hrun : ∀ c ∈ name.toList, Template.inName c = true := fun c hc => h.inName hc
  have hopen : ∀ c ∈ fallback.toList, decide (c ≠ '\x7d') = true := by
    intro c hc
    rw [decide_eq_true_eq]
    rintro rfl
    exact hclosed hc
  rw [reference?, takeWhile_run hrun (by decide), dropWhile_run hrun (by decide), h.startsName,
    String.ofList_toList]
  simp only [Bool.not_true, Bool.false_eq_true, if_false]
  rw [takeWhile_run hopen (by decide), dropWhile_run hopen (by decide), String.ofList_toList]
  rfl

end Name

/-- A reference is found where it is written. -/
theorem parse_source_append (r : Reference) (rest : List Char) :
    parse (r.source.toList ++ rest) = .reference r.name r.fallback :: parse rest := by
  obtain ⟨name, fallback, hname, hclosed⟩ := r
  cases fallback with
  | none =>
    rw [Reference.source, toList_referenceSource_none]
    simp only [List.cons_append, List.append_assoc]
    exact parse_reference (reference?_name hname rest)
  | some fallback =>
    rw [Reference.source, toList_referenceSource_some]
    simp only [List.cons_append, List.append_assoc, List.nil_append]
    exact parse_reference (reference?_fallback hname (hclosed fallback rfl) rest)

theorem parse_render (parts : List Part) :
    parse (render parts).toList = parts.flatMap Part.segments := by
  rw [render, String.toList_join, List.flatMap_map]
  induction parts with
  | nil => rw [List.flatMap_nil, List.flatMap_nil, parse]
  | cons part parts ih =>
    rw [List.flatMap_cons, List.flatMap_cons, ← ih]
    cases part with
    | text content => exact parse_doubleDollars_append content _
    | reference r => exact parse_source_append r _

theorem flatMap_value_segments (allowAll : Bool) (lookup : String → Option String)
    (part : Part) :
    (part.segments.flatMap fun segment => (segment.value allowAll lookup).toList) =
      (part.meaning allowAll lookup).toList := by
  cases part with
  | text content =>
    rw [Part.segments, Part.meaning, List.flatMap_map]
    have hchar : ∀ c ∈ content.toList,
        ((if c = '$' then Segment.dollar else .char c).value allowAll lookup).toList = [c] := by
      intro c _
      by_cases hc : c = '$'
      · rw [if_pos hc, hc, Segment.value]
        decide
      · rw [if_neg hc]
        exact String.toList_singleton c
    rw [List.flatMap_congr hchar, List.flatMap_singleton']
  | reference r =>
    obtain ⟨name, fallback, hname, hclosed⟩ := r
    rw [Part.segments, List.flatMap_singleton, Part.meaning, Segment.value, Reference.value]
    by_cases h : MayRefer allowAll name
    · rw [if_pos h, if_pos (mayRefer_iff.mpr h)]
      cases lookup name with
      | some value => rfl
      | none => cases fallback <;> rfl
    · rw [if_neg h, if_neg (mt mayRefer_iff.mp h)]
      rfl

/-- Of the segments of a part only a reference that may not be made is told of. -/
theorem flatMap_entries_segments (allowAll : Bool) (part : Part) :
    part.segments.flatMap (Segment.entries allowAll) =
      (part.refused? allowAll).toList.map fun r => refusal r.name := by
  cases part with
  | text content =>
    rw [Part.segments, List.flatMap_map, List.flatMap_eq_nil_iff.mpr]
    · rfl
    · intro c _
      by_cases hc : c = '$'
      · rw [if_pos hc]
        rfl
      · rw [if_neg hc]
        rfl
  | reference r =>
    rw [Part.segments, List.flatMap_singleton, Segment.entries, Part.refused?]
    by_cases h : MayRefer allowAll r.name
    · rw [if_pos h, if_pos (mayRefer_iff.mpr h)]
      rfl
    · rw [if_neg h, if_neg (mt mayRefer_iff.mp h)]
      rfl

theorem expand_parts (allowAll : Bool) (lookup : String → Option String) (parts : List Part) :
    expand allowAll lookup (render parts) =
      String.join (parts.map (Part.meaning allowAll lookup)) := by
  rw [← String.toList_inj, toList_expand, parse_render, List.flatMap_assoc, String.toList_join,
    List.flatMap_map]
  exact List.flatMap_congr fun part _ => flatMap_value_segments allowAll lookup part

theorem entries_parts (allowAll : Bool) (parts : List Part) :
    entries allowAll (render parts) =
      (parts.filterMap (Part.refused? allowAll)).map fun r => refusal r.name := by
  rw [entries, parse_render, List.flatMap_assoc, List.filterMap_eq_flatMap_toList,
    List.map_flatMap]
  exact List.flatMap_congr fun part _ => flatMap_entries_segments allowAll part

/-- A text whose dollar signs are doubled stands for itself. -/
theorem expand_doubleDollars (allowAll : Bool) (lookup : String → Option String)
    (text : String) : expand allowAll lookup (doubleDollars text) = text := by
  have hjoin : ∀ s : String, String.join [s] = s := fun s => String.empty_append
  have htext : render [.text text] = doubleDollars text := hjoin _
  rw [← htext, expand_parts]
  exact hjoin text

/-- A template says what its parts say.  Expansion gives the texts and, between them,
the values of the references, of which nothing is read again; of each reference that
may not be made one warning is logged, in order.  So a text whose dollar signs are
doubled is given back as it was. -/
theorem expand_render (parts : List Part) (allowAll : Bool) (lookup : String → Option String) :
    expand allowAll lookup (render parts) =
        String.join (parts.map (Part.meaning allowAll lookup)) ∧
      entries allowAll (render parts) =
        (parts.filterMap (Part.refused? allowAll)).map (fun r => refusal r.name) ∧
      ∀ text, expand allowAll lookup (doubleDollars text) = text :=
  ⟨expand_parts allowAll lookup parts, entries_parts allowAll parts,
    expand_doubleDollars allowAll lookup⟩

example : expand false (fun _ => none) "$$$\x7bOMERO_X:-$\x7b$$\x7d$\x7bX\x7d" =
    "$$\x7b$$$\x7bX\x7d" := by decide +kernel

end ServerLogin.Template
