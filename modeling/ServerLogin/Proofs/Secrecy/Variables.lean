import ServerLogin.Profile.Document
import ServerLogin.Proofs.Outcome
import ServerLogin.Proofs.Template.Rendering

/-!
A profile in two environments.  A document is read before any variable is looked up,
so variables change the wording of texts and nothing else; and unless the document
allows all variables, those that a template may not refer to have no effect.
-/

namespace ServerLogin

namespace Template

variable {allowAll : Bool} {lookup other : String → Option String}
  (h : ∀ name, MayRefer allowAll name → lookup name = other name)
include h

theorem value_congr (segment : Segment) :
    segment.value allowAll lookup = segment.value allowAll other := by
  cases segment with
  | char c => rfl
  | dollar => rfl
  | reference name fallback =>
    rw [Segment.value, Segment.value]
    by_cases hname : MayRefer allowAll name
    · rw [h name hname]
    · have hrefused : ¬(allowAll || isAllowed name) = true := mt mayRefer_iff.mp hname
      rw [if_neg hrefused, if_neg hrefused]

theorem expand_congr (template : String) :
    expand allowAll lookup template = expand allowAll other template := by
  rw [expand, expand, List.map_congr_left fun segment _ => value_congr h segment]

end Template

namespace Profile

open Template

/-- Profiles that agree in everything but the wording of their texts. -/
structure SameStructure (p q : Profile) : Prop where
  port : p.port = q.port
  applicationName : p.applicationName.isSome = q.applicationName.isSome
  encryption : p.encryption = q.encryption
  checkNetwork : p.checkNetwork = q.checkNetwork
  checkVersion : p.checkVersion = q.checkVersion
  compression : p.compression = q.compression
  groupId : p.groupId = q.groupId
  allowAllVariables : p.allowAllVariables = q.allowAllVariables

theorem expand_sameStructure (p : Profile) (lookup other : String → Option String) :
    (p.expand lookup).SameStructure (p.expand other) where
  port := rfl
  applicationName := Option.isSome_map.trans Option.isSome_map.symm
  encryption := rfl
  checkNetwork := rfl
  checkVersion := rfl
  compression := rfl
  groupId := rfl
  allowAllVariables := rfl

theorem expand_eq_of_agree {p : Profile} {lookup other : String → Option String}
    (h : ∀ name, MayRefer p.allowAllVariables name → lookup name = other name) :
    p.expand lookup = p.expand other := by
  have hvalue : Template.expand p.allowAllVariables lookup =
      Template.expand p.allowAllVariables other := funext (Template.expand_congr h)
  rw [expand, expand, hvalue]

/-- Two environments show themselves in the texts of a profile only. -/
theorem parse_related (text : String) (lookup other : String → Option String) :
    (parse lookup text).Related SameStructure (parse other text) := by
  unfold parse
  cases ofText text with
  | error fault => exact ⟨rfl, .error _⟩
  | ok p => exact .bind_same fun _ => .pure (expand_sameStructure p lookup other)

theorem parse_eq_of_agree {text : String} {lookup other : String → Option String} {p : Profile}
    (hp : (parse lookup text).result = .ok p)
    (h : ∀ name, MayRefer p.allowAllVariables name → lookup name = other name) :
    parse lookup text = parse other text := by
  unfold parse at hp ⊢
  cases hread : ofText text with
  | error fault => rfl
  | ok read =>
    rw [hread] at hp
    have hflag : p.allowAllVariables = read.allowAllVariables := by
      cases hp
      rfl
    rw [hflag] at h
    dsimp only
    rw [expand_eq_of_agree h]

/-- What an environment can do to a profile.  In two environments the same document
fails with the same error, or it gives profiles that differ in the wording of their
texts alone.  If it does not allow all variables and the environments agree on those
named `OMERO_…` and the few that are allowed besides, then the profiles are the same,
with the same log entries and the same credentials. -/
theorem parse_in_two_environments (text : String) (lookup other : String → Option String) :
    (parse lookup text).Related SameStructure (parse other text) ∧
      ∀ p, (parse lookup text).result = .ok p → p.allowAllVariables = false →
        (∀ name, "OMERO_".toList <+: name.toList ∨ name ∈ allowedNames →
          lookup name = other name) →
        parse lookup text = parse other text ∧
          (parse lookup text >>= toCredentials) = (parse other text >>= toCredentials) := by
  refine ⟨parse_related text lookup other, fun p hp hflag hagree => ?_⟩
  have hparse : parse lookup text = parse other text := by
    apply parse_eq_of_agree hp
    intro name hname
    rw [hflag] at hname
    exact hagree name (hname.resolve_left Bool.false_ne_true)
  exact ⟨hparse, by rw [hparse]⟩

/-- A variable that may not be referred to, in the password of a profile. -/
theorem parse_in_two_environments_secret :
    parse (fun name => if name = "CI_SECRET" then some "pw" else none)
        "host: h\npassword: $\x7bCI_SECRET\x7d\n" =
      parse (fun _ => none) "host: h\npassword: $\x7bCI_SECRET\x7d\n" ∧
    (parse (fun _ => none) "host: h\npassword: $\x7bCI_SECRET\x7d\n").result =
      .ok { host := "h", password := "$\x7bCI_SECRET\x7d" } := by
  have hread : (parse (fun name => if name = "CI_SECRET" then some "pw" else none)
      "host: h\npassword: $\x7bCI_SECRET\x7d\n").result =
        .ok { host := "h", password := "$\x7bCI_SECRET\x7d" } := by decide +kernel
  have hagree : ∀ name, "OMERO_".toList <+: name.toList ∨ name ∈ allowedNames →
      (if name = "CI_SECRET" then some "pw" else none) = none := by
    intro name hname
    rw [if_neg]
    rintro rfl
    exact absurd hname (by decide)
  have h := ((parse_in_two_environments _ _ _).2 _ hread rfl hagree).1
  exact ⟨h, h ▸ hread⟩

end Profile
end ServerLogin
