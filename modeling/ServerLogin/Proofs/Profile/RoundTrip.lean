import ServerLogin.Proofs.Profile.Document
import ServerLogin.Proofs.Profile.Storage
import ServerLogin.Proofs.Secrecy.Run
import ServerLogin.Proofs.Template.Rendering

/-!
Profiles that are written and read again.  Reading takes the texts of a profile for
templates, under the flag that the same document carries, and leaves all other fields
as they were written.  A profile that is meant word for word is written with its dollar
signs doubled.
-/

namespace ServerLogin

theorem Template.expand_empty (allowAll : Bool) (lookup : String → Option String) :
    expand allowAll lookup "" = "" := by
  have hparse : parse "".toList = [] := parse.eq_1
  rw [expand, hparse, List.map_nil, String.join_nil]

namespace Profile

def doubleDollars (p : Profile) : Profile :=
  { p with
    host := Template.doubleDollars p.host
    username := Template.doubleDollars p.username
    password := Template.doubleDollars p.password
    applicationName := p.applicationName.map Template.doubleDollars }

/-- Doubled dollar signs keep a profile from being expanded. -/
theorem expand_doubleDollars (p : Profile) (lookup : String → Option String) :
    p.doubleDollars.expand lookup = p := by
  have htext := Template.expand_doubleDollars p.allowAllVariables lookup
  have hname : (p.applicationName.map Template.doubleDollars).map
      (Template.expand p.allowAllVariables lookup) = p.applicationName := by
    cases p.applicationName with
    | none => rfl
    | some name => rw [Option.map_some, Option.map_some, htext]
  simp only [expand, doubleDollars, htext, hname]

/-- A written profile comes back without its password, with its texts expanded. -/
theorem result_parse_toText (p : Profile)
    (h : Yaml.number? (p.compression.text .document) = some p.compression)
    (lookup : String → Option String) :
    (parse lookup p.toText).result = .ok ((p.setPassword "").expand lookup) := by
  rw [result_parse, ofText_toText, h]
  rfl

/-- A profile is read back from its document.  Its password comes back empty, its texts come
back as the templates that they are, under its own flag, and each other field as it was; so with
doubled dollar signs the texts come back as they were, too, whatever the variables are.
Nothing that is read, and nothing that is logged on the way, depends on the password that
the profile had.  The compression has to be read back from its text. -/
theorem parse_toText (p : Profile)
    (h : Yaml.number? (p.compression.text .document) = some p.compression)
    (lookup : String → Option String) :
    (parse lookup p.toText).result = .ok
      { p with
        host := Template.expand p.allowAllVariables lookup p.host
        username := Template.expand p.allowAllVariables lookup p.username
        password := ""
        applicationName :=
          p.applicationName.map (Template.expand p.allowAllVariables lookup) } ∧
    (parse lookup p.doubleDollars.toText).result = .ok { p with password := "" } ∧
    ∀ password, parse lookup (p.setPassword password).toText = parse lookup p.toText := by
  refine ⟨?_, ?_, fun password => ?_⟩
  · rw [result_parse_toText p h, expand]
    simp only [setPassword, Template.expand_empty]
  · have hread : (parse lookup p.doubleDollars.toText).result =
        .ok ((p.doubleDollars.setPassword "").expand lookup) :=
      result_parse_toText p.doubleDollars h lookup
    have hempty : Template.doubleDollars "" = "" := by decide
    have hpassword : p.doubleDollars.setPassword "" = (p.setPassword "").doubleDollars := by
      simp only [doubleDollars, setPassword, hempty]
    rw [hread, hpassword, expand_doubleDollars, setPassword]
  · have htext : p.toText = (p.setPassword password).toText := toText_eq ⟨password, rfl⟩
    rw [htext]

/-- A profile with a port, without a name of the application, that may refer to any variable. -/
theorem parse_toText_any_variable :
    let p : Profile :=
      { host := "$\x7bNODE:-a$$b\x7d", port := some 1, username := "$$", password := "s3cret",
        groupId := -7, allowAllVariables := true }
    let lookup : String → Option String := fun name => if name = "NODE" then some "$$" else none
    Yaml.number? (p.compression.text .document) = some p.compression ∧
      (parse lookup p.toText).result =
        .ok { p with host := "$$", username := "$", password := "" } ∧
      (parse lookup p.doubleDollars.toText).result = .ok { p with password := "" } := by
  intro p lookup
  have hread : Yaml.number? (p.compression.text .document) = some p.compression := by
    decide +kernel
  have hhost : Template.expand true lookup p.host = "$$" := by decide +kernel
  have husername : Template.expand true lookup p.username = "$" := by decide +kernel
  obtain ⟨hparse, hdoubled, _⟩ := parse_toText p hread lookup
  rw [hparse, hhost, husername]
  exact ⟨hread, rfl, hdoubled⟩

end Profile
end ServerLogin
