import ServerLogin.Login
import ServerLogin.Proofs.Secrecy.Credentials

/-!
Runs with two passwords.  Options that differ in nothing but the passwords they
give lead to the same session and the same result: neither the log, at any level,
nor the files nor what is printed tells one password from another.
-/

namespace ServerLogin

open CommandLine

namespace Session

/-- Two runs that end in the same session, with results that agree. -/
structure EndAlike {ε α β : Type} (r : α → β → Prop) (x : Session × Except ε α)
    (y : Session × Except ε β) : Prop where
  session : x.1 = y.1
  result : Agree r x.2 y.2

theorem absorb_endAlike {α β : Type} {r : α → β → Prop} {x : Outcome α} {y : Outcome β}
    (h : x.Related r y) (s : Session) : EndAlike r (s.absorb x) (s.absorb y) :=
  ⟨by rw [absorb, absorb, h.entries], h.result⟩

end Session

namespace Profile

/-- A saved document does not hold the password. -/
theorem toText_eq {p q : Profile} (h : p.SameButPassword q) : p.toText = q.toText := by
  obtain ⟨password, rfl⟩ := h
  have hcontent : ∀ field, p.content? field = (p.setPassword password).content? field := by
    intro field
    cases field <;> rfl
  simp only [toText, hcontent]

theorem save_eq {p q : Profile} (h : p.SameButPassword q) (path : Path) (s : Session) :
    p.save path s = q.save path s := by
  rw [save, save, toText_eq h]

end Profile

namespace Login

open Session

/-- Options that differ in nothing but the passwords they give: the option for it
and the raw arguments that are read as one. -/
def SameButPassword (o o' : Options) : Prop :=
  ∃ password arguments, o' = { o with password := password, rawArguments := arguments } ∧
    o.password.isSome = password.isSome ∧
    List.Forall₂ RawArguments.SameArgument o.rawArguments arguments

theorem during_agree {α β : Type} {r : α → β → Prop} {x : Except LoginError α}
    {y : Except LoginError β} (h : Agree r x y) (doing : Option String) :
    Agree r (during doing x) (during doing y) := by
  cases h with
  | ok h => exact .ok h
  | error e => exact .error _

theorem argumentSettings_related {raw raw' : List String}
    (h : List.Forall₂ RawArguments.SameArgument raw raw') :
    (argumentSettings raw).Related Profile.SameButPassword (argumentSettings raw') := by
  unfold argumentSettings
  have hstored : (Credentials.ofArguments (some raw)).Related
      (fun c d => c.arguments = some raw ∧ d.arguments = some raw')
      (Credentials.ofArguments (some raw')) := by
    unfold Credentials.ofArguments
    dsimp only
    rw [h.length_eq]
    exact .bind_same fun _ => .pure ⟨rfl, rfl⟩
  refine hstored.bind ?_
  rintro c d ⟨hc, hd⟩
  have hresolve : c.resolveArguments.Related Credentials.SameButPassword d.resolveArguments := by
    rw [Credentials.resolveArguments, hc, Credentials.resolveArguments, hd]
    exact RawArguments.interpret_related h
  exact hresolve.bind fun _ _ h => .pure (Profile.ofCredentials_sameButPassword h)

theorem settings_endAlike {o o' : Options} (h : SameButPassword o o') (env : Environment)
    (s : Session) :
    EndAlike Profile.SameButPassword (settings (base o env) s) (settings (base o' env) s) := by
  obtain ⟨password, arguments, rfl, _, hraw⟩ := h
  unfold base
  dsimp only
  generalize o.rawArguments = raw at hraw ⊢
  cases hraw with
  | nil => exact ⟨rfl, .refl .refl _⟩
  | cons hab htail =>
    have hend := absorb_endAlike (argumentSettings_related (.cons hab htail)) s
    exact ⟨hend.session, during_agree hend.result _⟩

theorem override_sameButPassword {o o' : Options} {p q : Profile} (h : SameButPassword o o')
    (hpq : p.SameButPassword q) : (override o p).SameButPassword (override o' q) := by
  obtain ⟨password, arguments, rfl, _, _⟩ := h
  obtain ⟨other, rfl⟩ := hpq
  exact ⟨password.getD other, rfl⟩

theorem credentials_endAlike {o o' : Options} (h : SameButPassword o o') (s : Session) :
    EndAlike Credentials.SameButPassword (credentials o s) (credentials o' s) := by
  unfold credentials
  obtain ⟨hsession, hresult⟩ := settings_endAlike h s.environment s
  generalize settings (base o s.environment) s = x at hsession hresult ⊢
  generalize settings (base o' s.environment) s = y at hsession hresult ⊢
  obtain ⟨s₁, x⟩ := x
  obtain ⟨s₂, y⟩ := y
  cases (hsession : s₁ = s₂)
  cases (hresult : Agree Profile.SameButPassword x y) with
  | error e => exact ⟨rfl, .error e⟩
  | ok hpq =>
    have hend := absorb_endAlike
      (Profile.toCredentials_related (override_sameButPassword h hpq)) s₁
    exact ⟨hend.session, during_agree hend.result _⟩

theorem saveTo_eq {a b : SealedCredentials} (h : a.credentials.SameButPassword b.credentials)
    (path : Option Path) (s : Session) : saveTo path a s = saveTo path b s := by
  cases path with
  | none => rfl
  | some path =>
    unfold saveTo
    dsimp only
    rw [Profile.save_eq (Profile.ofCredentials_sameButPassword h)]

/-- A summary tells of the password only whether it is empty. -/
theorem summary_eq {a b : SealedCredentials} (h : a.credentials.SameButPassword b.credentials)
    (hempty : a.credentials.user.password = "" ↔ b.credentials.user.password = "") :
    summary a = summary b := by
  obtain ⟨c, hc⟩ := a
  obtain ⟨d, hd⟩ := b
  obtain ⟨password, rfl⟩ : ∃ password, d = c.setPassword password := h
  have hisEmpty : c.user.password.isEmpty = password.isEmpty :=
    Bool.eq_iff_iff.mpr (String.isEmpty_iff.trans (hempty.trans String.isEmpty_iff.symm))
  unfold summary
  simp only [hisEmpty, Credentials.setPassword]
  rfl

/-- Checking, saving and summing up the credentials that two runs come to. -/
theorem run_eq_of_credentials {o o' : Options} (h : SameButPassword o o') {s : Session}
    (hempty : ∀ c d, (credentials o s).2 = .ok c → (credentials o' s).2 = .ok d →
      (c.user.password = "" ↔ d.user.password = "")) : run o s = run o' s := by
  obtain ⟨hsession, hresult⟩ := credentials_endAlike h s
  have hsave : o.save = o'.save := by
    obtain ⟨_, _, rfl, _⟩ := h
    rfl
  unfold run
  rw [hsave]
  generalize credentials o s = x at hsession hresult hempty ⊢
  generalize credentials o' s = y at hsession hresult hempty ⊢
  obtain ⟨s₁, x⟩ := x
  obtain ⟨s₂, y⟩ := y
  cases (hsession : s₁ = s₂)
  cases (hresult : Agree Credentials.SameButPassword x y) with
  | error e => rfl
  | @ok c d hcd =>
    have hempty := hempty c d rfl rfl
    obtain ⟨hsession, hresult⟩ := absorb_endAlike (Credentials.seal_related hcd) s₁
    dsimp only
    generalize s₁.absorb c.seal = x at hsession hresult ⊢
    generalize s₁.absorb d.seal = y at hsession hresult ⊢
    obtain ⟨s₃, x⟩ := x
    obtain ⟨s₄, y⟩ := y
    cases (hsession : s₃ = s₄)
    cases (hresult : Agree _ x y) with
    | error e => rfl
    | @ok a b hab =>
      obtain ⟨rfl, rfl⟩ := hab
      dsimp only
      rw [saveTo_eq hcd, summary_eq hcd hempty]

/-- The password is kept secret.  Two runs on options that differ in nothing but
the password end in the same session, with the same files and log entries, and
with the same output or the same failure, provided that the passwords that come out
are both empty or both not.  Of profiles, too, neither the debug view nor the saved
file nor the log tells one password that is not empty from another. -/
theorem run_eq_of_sameButPassword (o o' : Options) (s : Session) (h : SameButPassword o o')
    (hempty : ∀ c d, (credentials o s).2 = .ok c → (credentials o' s).2 = .ok d →
      (c.user.password = "" ↔ d.user.password = "")) :
    run o s = run o' s ∧
    ∀ p q : Profile, p.SameButPassword q → p.password ≠ "" → q.password ≠ "" →
      p.view = q.view ∧ (∀ path s, p.save path s = q.save path s) ∧
        p.toCredentials.entries = q.toCredentials.entries := by
  refine ⟨run_eq_of_credentials h hempty, fun p q hpq hp hq => ?_⟩
  exact ⟨Profile.view_eq hpq (iff_of_false hp hq), Profile.save_eq hpq,
    (Profile.toCredentials_related hpq).entries⟩

/-- Two passwords, each given as an option and as a raw argument. -/
theorem run_eq_of_two_passwords :
    run { password := some "a", rawArguments := ["--omero.host=h", "--omero.pass=x"],
          save := some ⟨"p.yaml"⟩ } {} =
      run { password := some "b", rawArguments := ["--omero.host=h", "--omero. pass =y#"],
            save := some ⟨"p.yaml"⟩ } {} ∧
    Profile.view { host := "h", password := "x" } =
      Profile.view { host := "h", password := "y" } := by
  have hpassword : (credentials
      { password := some "a", rawArguments := ["--omero.host=h", "--omero.pass=x"],
        save := some ⟨"p.yaml"⟩ } {}).2.map (·.user.password) = .ok "a" := by decide +kernel
  have hother : (credentials
      { password := some "b", rawArguments := ["--omero.host=h", "--omero. pass =y#"],
        save := some ⟨"p.yaml"⟩ } {}).2.map (·.user.password) = .ok "b" := by decide +kernel
  have hsame : SameButPassword
      { password := some "a", rawArguments := ["--omero.host=h", "--omero.pass=x"],
        save := some ⟨"p.yaml"⟩ }
      { password := some "b", rawArguments := ["--omero.host=h", "--omero. pass =y#"],
        save := some ⟨"p.yaml"⟩ } :=
    ⟨some "b", ["--omero.host=h", "--omero. pass =y#"], rfl, rfl,
      .cons (Or.inl rfl) (.cons (Or.inr ⟨"x", "y", rfl, rfl⟩) .nil)⟩
  have h := run_eq_of_sameButPassword _ _ {} hsame (fun c d hc hd => by
    rw [hc] at hpassword
    rw [hd] at hother
    have hc' : c.user.password = "a" := Except.ok.inj hpassword
    have hd' : d.user.password = "b" := Except.ok.inj hother
    rw [hc', hd']
    decide)
  exact ⟨h.1, (h.2 _ _ ⟨"y", rfl⟩ (by decide) (by decide)).1⟩

end Login
end ServerLogin
