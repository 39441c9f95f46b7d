import ServerLogin.Outcome

/-!
Variable references inside the fields of a profile.  `${NAME}` stands for the
value of a variable, `${NAME:-fallback}` for the fallback when the variable is
unset, and `$$` for a dollar sign.  A text is first taken apart into segments;
what a segment stands for is never read again.
-/

namespace ServerLogin.Template

/-- A part of a text. -/
inductive Segment
  | char (c : Char)
  | dollar
  | reference (name : String) (fallback : Option String)
deriving DecidableEq, Repr

def startsName (c : Char) : Bool := c.isAlpha || c == '_'

def inName (c : Char) : Bool := c.isAlphanum || c == '_'

/-- Read what follows a dollar sign and an opening brace: a name, perhaps a
fallback, and the closing brace. -/
def reference? (cs : List Char) : Option (Segment × List Char) :=
  let name := cs.takeWhile inName
  if !name.head?.any startsName then none else
  match cs.dropWhile inName with
  | '\x7d' :: rest => some (.reference (String.ofList name) none, rest)
  | ':' :: '-' :: more =>
    match more.dropWhile (· ≠ '\x7d') with
    | '\x7d' :: rest =>
      some (.reference (String.ofList name)
        (some (String.ofList (more.takeWhile (· ≠ '\x7d')))), rest)
    | _ => none
  | _ => none

private theorem length_dropWhile_le (p : Char → Bool) (cs : List Char) :
    (cs.dropWhile p).length ≤ cs.length :=
  (List.dropWhile_suffix p).length_le

/-- A reference takes at least its closing brace. -/
theorem length_lt_of_reference? {cs rest : List Char} {s : Segment}
    (h : reference? cs = some (s, rest)) : rest.length < cs.length := by
  unfold reference? at h
  have hname := length_dropWhile_le inName cs
  dsimp only at h
  split at h
  · cases h
  · split at h
    · next heq =>
      cases h
      rw [heq] at hname
      exact hname
    · next more heq =>
      rw [heq] at hname
      have hmore := length_dropWhile_le (· ≠ '\x7d') more
      split at h
      · next heq' =>
        cases h
        rw [heq'] at hmore
        simp only [List.length_cons] at hname hmore
        omega
      · cases h
    · cases h

def parse (cs : List Char) : List Segment :=
  match cs with
  | [] => []
  | '$' :: '$' :: rest => .dollar :: parse rest
  | '$' :: '\x7b' :: rest =>
    match _h : reference? rest with
    | some (segment, rest') => segment :: parse rest'
    | none => .char '$' :: parse ('\x7b' :: rest)
  | c :: rest => .char c :: parse rest
termination_by cs.length
decreasing_by
  · simp only [List.length_cons]
    omega
  · have hrest := length_lt_of_reference? _h
    simp only [List.length_cons]
    omega
  · simp only [List.length_cons]
    omega
  · simp only [List.length_cons]
    omega

def referenceSource (name : String) (fallback : Option String) : String :=
  match fallback with
  | none => "$\x7b" ++ name ++ "\x7d"
  | some text => "$\x7b" ++ name ++ ":-" ++ text ++ "\x7d"

/-- The variables that may be referred to besides those named `OMERO_…`. -/
def allowedNames : List String := ["HOME", "USER", "USERNAME", "LOGNAME", "HOSTNAME"]

/-- Whether a variable may be referred to without further permission. -/
def isAllowed (name : String) : Bool :=
  "OMERO_".toList.isPrefixOf name.toList || allowedNames.contains name

/-- What is logged when a reference is left in place. -/
def refusal (name : String) : Log.Entry :=
  ⟨.warn, .template, "Profile references $\x7b" ++ name ++ "\x7d, which is not an OMERO_* " ++
    "variable; left unexpanded (set allow_all_env_vars: true to permit it)"⟩

/-- What a segment stands for. -/
def Segment.value (allowAll : Bool) (lookup : String → Option String) : Segment → String
  | .char c => String.singleton c
  | .dollar => "$"
  | .reference name fallback =>
    if allowAll || isAllowed name then
      ((lookup name).or fallback).getD (referenceSource name fallback)
    else referenceSource name fallback

/-- What is logged about a segment. -/
def Segment.entries (allowAll : Bool) : Segment → List Log.Entry
  | .reference name _ => if allowAll || isAllowed name then [] else [refusal name]
  | _ => []

def expand (allowAll : Bool) (lookup : String → Option String) (template : String) : String :=
  String.join ((parse template.toList).map (Segment.value allowAll lookup))

def entries (allowAll : Bool) (template : String) : List Log.Entry :=
  (parse template.toList).flatMap (Segment.entries allowAll)

end ServerLogin.Template
