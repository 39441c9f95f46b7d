import ServerLogin.Login

/-!
The steps of a login: its settings are found, options override them, and they are
turned into credentials.
-/

namespace ServerLogin.Login

open CommandLine

theorem result_credentials (o : Options) (s : Session) :
    (credentials o s).2 = (settings (base o s.environment) s).2.bind fun p =>
      during none (override o p).toCredentials.result := by
  unfold credentials
  obtain ⟨s', result⟩ := settings (base o s.environment) s
  cases result <;> rfl

theorem result_argumentSettings (raw : List String) :
    (argumentSettings raw).result =
      (RawArguments.interpret raw).result.map Profile.ofCredentials := by
  simp only [argumentSettings, Credentials.ofArguments, Outcome.result_bind, Outcome.result_log,
    Except.bind, Outcome.result_pure, Credentials.resolveArguments]
  cases (RawArguments.interpret raw).result <;> rfl

theorem base_of_arguments (o : Options) (h : o.rawArguments ≠ []) (env : Environment) :
    base o env = .arguments o.rawArguments := by
  rw [base, List.isEmpty_eq_false_iff.mpr h]
  rfl

/-- Options that only say where the settings come from override none of them. -/
theorem override_of_source (raw : List String) (path : Option Path) (p : Profile) :
    override { rawArguments := raw, profile := path } p = p := by
  simp [override]

end ServerLogin.Login
