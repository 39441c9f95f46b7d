import ServerLogin.Login
import ServerLogin.Proofs.CommandLine.GivenPassword
import ServerLogin.Proofs.CommandLine.Rendering

/-!
The grammar of the command line.  Options are read back from what they are written as; of raw
arguments, a profile and the default profile no accepted command line gives two, so that the
one it gives is where the settings come from; and a password that it gives is the one that
counts.
-/

namespace ServerLogin.CommandLine

open ServerLogin.Number

/-- The sources of settings that the options give. -/
inductive Options.Source (o : Options) (env : Environment) : Login.Base → Prop
  | arguments (given : o.rawArguments ≠ []) : o.Source env (.arguments o.rawArguments)
  | profile {path : Path} (given : o.profile = some path) : o.Source env (.file path)
  | defaultProfile (given : o.defaultProfile = true) :
      o.Source env (.file (Profile.defaultPath env))

/-- The options of an accepted command line give one source at most. -/
theorem oneBase_of_parse {env : Environment} {arguments : List String} {o : Options}
    (h : parse env arguments = .ok o) : o.OneBase := by
  rw [parse_eq] at h
  obtain ⟨s, -, hrest⟩ := exists_of_bind_eq_ok h
  obtain ⟨o', -, hbase⟩ := exists_of_bind_eq_ok hrest
  split at hbase
  · next hone =>
    cases hbase
    exact Options.hasOneBase_iff.mp hone
  · cases hbase

/-- The only source that the options give is where the settings come from. -/
theorem base_of_source {o : Options} (h : o.OneBase) {env : Environment} {base : Login.Base}
    (hsource : o.Source env base) : Login.base o env = base := by
  cases hsource with
  | arguments given =>
    have hgiven : (!o.rawArguments.isEmpty) = true := by simpa using given
    rw [Login.base, if_pos hgiven]
  | @profile path given =>
    have hraw : o.rawArguments = [] := by
      by_contra hne
      rw [(h.arguments hne).1] at given
      cases given
    have hdefault : o.defaultProfile = false := by
      by_contra hon
      rw [h.profile (by simpa using hon)] at given
      cases given
    rw [Login.base, hraw, hdefault, given]
    rfl
  | defaultProfile given =>
    have hraw : o.rawArguments = [] := by
      by_contra hne
      rw [(h.arguments hne).2] at given
      cases given
    rw [Login.base, hraw, given]
    rfl

/-- Options are read back from any order in which they are written, when no password comes
from the environment.  Every accepted command line gives one source of settings at most, and
this one is used.  A password on the command line is taken, whatever the environment holds. -/
theorem command_line_grammar :
    (∀ (o : Options) (kinds : List Kind) (env : Environment), o.OneBase → o.Writable →
      kinds.Perm o.kinds → env.bindings.lookup "OMERO_PASSWORD" = none →
        parse env (kinds.map o.word ++ o.tail) = .ok o) ∧
    (∀ (env : Environment) (arguments : List String) (o : Options),
      parse env arguments = .ok o →
        o.OneBase ∧ ∀ later base, o.Source later base → Login.base o later = base) ∧
    ∀ (password : String) (arguments : List String), GivesPassword password arguments →
      ∀ env, (∀ o, parse env arguments = .ok o → o.password = some password) ∧
        ∀ other, parse other arguments = parse env arguments := by
  refine ⟨?_, ?_, ?_⟩
  · intro o kinds env hbase hwritable horder henv
    exact parse_words hbase hwritable horder henv
  · intro env arguments o h
    have hbase := oneBase_of_parse h
    exact ⟨hbase, fun _ _ hsource => base_of_source hbase hsource⟩
  · intro password arguments h env
    exact h.parse env

/-- A negative group and raw arguments that look like options, a profile, and a password that
the environment has, too. -/
theorem command_line_grammar_negative :
    parse {} ["--no-encryption", "--group=-5", "--host=h", "--", "--", "--help"] =
        .ok { host := some "h", group := some (-5), noEncryption := true,
              rawArguments := ["--", "--help"] } ∧
      (parse {} ["--profile=p"] = .ok { profile := some ⟨"p"⟩ } ∧
        Login.base { profile := some ⟨"p"⟩ } {} = .file ⟨"p"⟩) ∧
      (∃ o, parse ⟨[("OMERO_PASSWORD", .text "q")]⟩ ["-wp"] = .ok o ∧ o.password = some "p") := by
  obtain ⟨hwords, hsource, hpassword⟩ := command_line_grammar
  refine ⟨?_, ?_, ?_⟩
  · have hread := hwords
      { host := some "h", group := some (-5), noEncryption := true,
        rawArguments := ["--", "--help"] }
      [.switch .noEncryption, .setting .group, .setting .host] {}
      ⟨fun _ => ⟨rfl, rfl⟩, nofun⟩ ⟨nofun, nofun, nofun, nofun⟩ (by decide) rfl
    exact hread
  · have hparse : parse {} ["--profile=p"] = .ok { profile := some ⟨"p"⟩ } := by decide +kernel
    exact ⟨hparse, (hsource {} ["--profile=p"] _ hparse).2 {} _ (.profile rfl)⟩
  · have hgives : GivesPassword "p" ["-wp"] :=
      GivesPassword.intro [] (show endsOption [] = true by decide)
        (.letter (by decide) (by decide))
    have hparse : parse ⟨[("OMERO_PASSWORD", .text "q")]⟩ ["-wp"] =
        .ok { password := some "p" } := by decide +kernel
    exact ⟨_, hparse, (hpassword "p" ["-wp"] hgives _).1 _ hparse⟩

end ServerLogin.CommandLine
