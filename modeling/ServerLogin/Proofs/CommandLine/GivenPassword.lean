import ServerLogin.Proofs.CommandLine.LogOption

/-!
A password on the command line.  Once it is read it stays, and a second one is a conflict; so
the environment is not asked for one.
-/

namespace ServerLogin.CommandLine

section Results

variable {ε α β : Type}

theorem exists_of_bind_eq_ok {read : Except ε α} {next : α → Except ε β} {b : β}
    (h : read >>= next = .ok b) : ∃ a, read = .ok a ∧ next a = .ok b := by
  cases read with
  | error e => cases h
  | ok a => exact ⟨a, rfl, h⟩

theorem exists_of_map_eq_ok {read : Except ε α} {f : α → β} {b : β}
    (h : read.map f = .ok b) : ∃ a, read = .ok a ∧ f a = b := by
  cases read with
  | error e => cases h
  | ok a => exact ⟨a, rfl, Except.ok.inj h⟩

end Results

/-- How a password is written on a command line: attached to the option or to its letter, or
next to it when it is no option. -/
inductive WritesPassword (password : String) : List String → Prop
  | long : WritesPassword password ["--password=" ++ password]
  | longApart (value : isValue password = true) :
      WritesPassword password ["--password", password]
  | letterEquals : WritesPassword password ["-w=" ++ password]
  | letter (nonempty : password ≠ "") (equals : password.toList.head? ≠ some '=') :
      WritesPassword password ["-w" ++ password]
  | letterApart (value : isValue password = true) : WritesPassword password ["-w", password]

/-- A command line gives a password: it is written in front of `--`, and not between an option
and its value. -/
inductive GivesPassword (password : String) : List String → Prop
  | intro {before written : List String} (after : List String) (ends : endsOption before = true)
      (writes : WritesPassword password written) :
      GivesPassword password (before ++ written ++ after)

namespace Options

variable {o o' : Options} {password : String}

/-- Setting the password takes the value as it is. -/
theorem password_of_set_self (h : o.set .password password = .ok o') :
    o'.password = some password := by
  obtain ⟨field, hfield, rfl⟩ := exists_of_map_eq_ok h
  cases hpassword : o.password with
  | some other =>
    rw [hpassword] at hfield
    cases hfield
  | none =>
    rw [hpassword] at hfield
    cases hfield
    rfl

/-- Setting anything leaves the password; setting it again is a conflict. -/
theorem password_of_set (h : o.password = some password) {setting : Setting} {value : String}
    (hset : o.set setting value = .ok o') : o'.password = some password := by
  cases setting with
  | password =>
    rw [set, h] at hset
    cases hset
  | _ =>
    obtain ⟨field, -, rfl⟩ := exists_of_map_eq_ok hset
    exact h

theorem password_of_turnOn (h : o.password = some password) {switch : Switch}
    (hon : o.turnOn switch = .ok o') : o'.password = some password := by
  unfold turnOn at hon
  cases switch <;>
  · dsimp only at hon
    split at hon
    · cases hon
    · cases hon
      exact h

end Options

namespace State

/-- A password has been read: it is set, or its option waits to be looked at. -/
def HasPassword (password : String) (s : State) : Prop :=
  s.options.password = some password ∨ s.pending = some ⟨.password, some password⟩

variable {password : String} {s t : State}

namespace HasPassword

theorem settle (h : s.HasPassword password) (hsettle : s.settle = .ok t) :
    t.options.password = some password := by
  unfold State.settle at hsettle
  split at hsettle
  · next hnone =>
    cases hsettle
    rcases h with hset | hpending
    · exact hset
    · rw [hnone] at hpending
      cases hpending
  · cases hsettle
  · next setting value hsome =>
    obtain ⟨o, ho, rfl⟩ := exists_of_map_eq_ok hsettle
    rcases h with hset | hpending
    · exact Options.password_of_set hset ho
    · rw [hsome] at hpending
      cases hpending
      exact Options.password_of_set_self ho

theorem attach (h : s.HasPassword password) {setting : Setting} {value : String}
    (hattach : s.attach setting value = .ok t) : t.HasPassword password := by
  obtain ⟨settled, hsettle, hrest⟩ := exists_of_bind_eq_ok hattach
  obtain ⟨o, ho, hsame⟩ := exists_of_bind_eq_ok hrest
  cases hsame
  exact .inl (Options.password_of_set (h.settle hsettle) ho)

theorem await (h : s.HasPassword password) {setting : Setting}
    (hawait : s.await setting = .ok t) : t.HasPassword password := by
  obtain ⟨settled, hsettle, hsame⟩ := exists_of_bind_eq_ok hawait
  have hset := h.settle hsettle
  cases hsame
  exact .inl hset

theorem mark (h : s.HasPassword password) {kind : Kind} (hmark : s.mark kind = .ok t) :
    t.HasPassword password := by
  cases kind with
  | setting setting => exact h.await hmark
  | switch switch =>
    obtain ⟨settled, hsettle, hrest⟩ := exists_of_bind_eq_ok hmark
    obtain ⟨o, ho, hsame⟩ := exists_of_bind_eq_ok hrest
    cases hsame
    exact .inl (Options.password_of_turnOn (h.settle hsettle) ho)
  | help | version =>
    obtain ⟨settled, -, hrest⟩ := exists_of_bind_eq_ok hmark
    cases hrest

theorem long (h : s.HasPassword password) {text : List Char} (hlong : s.long text = .ok t) :
    t.HasPassword password := by
  unfold State.long at hlong
  dsimp only at hlong
  split at hlong
  · cases hlong
  · exact h.attach hlong
  · cases hlong
  · exact h.mark hlong

theorem short (h : s.HasPassword password) {cs : List Char} (hshort : s.short cs = .ok t) :
    t.HasPassword password := by
  induction cs generalizing s with
  | nil =>
    cases hshort
    exact h
  | cons c rest ih =>
    rw [State.short] at hshort
    split at hshort
    · cases hshort
    · split at hshort
      · exact h.await hshort
      · exact h.attach hshort
      · exact h.attach hshort
    · obtain ⟨marked, hmark, hrest⟩ := exists_of_bind_eq_ok hshort
      exact ih (h.mark hmark) hrest

/-- A setting that waits for its value is not the password that has been read. -/
theorem value (h : s.HasPassword password) {argument : String}
    (hvalue : (match s.waiting? with
      | some setting => Except.ok { s with pending := some ⟨setting, some argument⟩ }
      | none => Except.error UsageFault.unknownArgument) = .ok t) : t.HasPassword password := by
  split at hvalue
  · next setting hwaiting =>
    have hset : s.options.password = some password := by
      rcases h with hset | hpending
      · exact hset
      · unfold waiting? at hwaiting
        rw [hpending] at hwaiting
        cases hwaiting
    cases hvalue
    exact .inl hset
  · cases hvalue

/-- Whatever is read next, the password stays. -/
theorem read (h : s.HasPassword password) {argument : String} (hread : s.read argument = .ok t) :
    t.HasPassword password := by
  unfold State.read at hread
  dsimp only at hread
  split at hread
  · exact h.long hread
  · split at hread
    · exact h.value hread
    · exact h.short hread
  · exact h.value hread

end HasPassword

end State

/-- The password stays to the end of the command line. -/
theorem password_of_readAll {password : String} {s t : State} (h : s.HasPassword password)
    {arguments : List String} (hread : readAll s arguments = .ok t) :
    t.options.password = some password := by
  induction arguments generalizing s with
  | nil => exact h.settle hread
  | cons argument rest ih =>
    by_cases hend : argument = "--"
    · subst hend
      obtain ⟨settled, hsettle, hsame⟩ := exists_of_bind_eq_ok hread
      have hset := h.settle hsettle
      cases hsame
      exact hset
    · rw [readAll.eq_3 _ _ _ hend] at hread
      obtain ⟨next, hnext, hrest⟩ := exists_of_bind_eq_ok hread
      exact ih (h.read hnext) hrest

namespace State

variable {password : String} {s t : State}

theorem hasPassword_of_attach (h : s.attach .password password = .ok t) :
    t.HasPassword password := by
  obtain ⟨settled, -, hrest⟩ := exists_of_bind_eq_ok h
  obtain ⟨o, ho, hsame⟩ := exists_of_bind_eq_ok hrest
  cases hsame
  exact .inl (Options.password_of_set_self ho)

/-- A password next to its option has been read, though it is looked at later. -/
theorem hasPassword_of_await (h : s.await .password = .ok t) (hvalue : isValue password = true)
    {u : State} (hread : t.read password = .ok u) : u.HasPassword password := by
  obtain ⟨settled, -, hsame⟩ := exists_of_bind_eq_ok h
  cases hsame
  rw [read_value rfl hvalue] at hread
  cases hread
  exact .inr rfl

end State

namespace WritesPassword

variable {password : String} {written : List String}

theorem end_notMem (h : WritesPassword password written) : "--" ∉ written := by
  have hvalue : isValue password = true → "--" ≠ password := by
    rintro hvalue rfl
    exact absurd hvalue (by decide)
  -- the second character tells the two dashes from a letter, the third from a long name
  have hsecond : ∀ {argument : String}, argument.toList[1]? ≠ some '-' → "--" ≠ argument := by
    rintro _ hother rfl
    exact hother rfl
  have hthird : ∀ {argument : String}, argument.toList[2]? ≠ none → "--" ≠ argument := by
    rintro _ hother rfl
    exact hother rfl
  intro hmem
  cases h with
  | long => exact hthird (by simp) (List.mem_singleton.mp hmem)
  | longApart value =>
    rcases List.mem_pair.mp hmem with hsame | hsame
    · exact absurd hsame (by decide)
    · exact hvalue value hsame
  | letterEquals => exact hsecond (by simp) (List.mem_singleton.mp hmem)
  | letter nonempty equals => exact hsecond (by simp) (List.mem_singleton.mp hmem)
  | letterApart value =>
    rcases List.mem_pair.mp hmem with hsame | hsame
    · exact absurd hsame (by decide)
    · exact hvalue value hsame

/-- In all its forms the password is read as one. -/
theorem hasPassword (h : WritesPassword password written) {s t : State}
    (hwaiting : s.waiting? = none) (hread : written.foldlM State.read s = .ok t) :
    t.HasPassword password := by
  have hname : longNames.lookup "password" = some (.setting .password) := by decide
  have hletter : letters.lookup 'w' = some (.setting .password) := by decide
  have hdash : 'w' ≠ '-' := by decide
  cases h with
  | long =>
    obtain ⟨next, hnext, hsame⟩ := exists_of_bind_eq_ok hread
    cases hsame
    exact State.hasPassword_of_attach ((State.read_attached hname s password).symm.trans hnext)
  | longApart value =>
    obtain ⟨next, hnext, hrest⟩ := exists_of_bind_eq_ok hread
    obtain ⟨last, hlast, hsame⟩ := exists_of_bind_eq_ok hrest
    cases hsame
    exact State.hasPassword_of_await ((State.read_name hname s).symm.trans hnext) value hlast
  | letterEquals =>
    obtain ⟨next, hnext, hsame⟩ := exists_of_bind_eq_ok hread
    cases hsame
    have htext : ("-w=" ++ password).toList = '-' :: 'w' :: '=' :: password.toList := by simp
    rw [State.read_letters hwaiting hdash htext, State.short, hletter] at hnext
    simp only [String.ofList_toList] at hnext
    exact State.hasPassword_of_attach hnext
  | letter nonempty equals =>
    obtain ⟨next, hnext, hsame⟩ := exists_of_bind_eq_ok hread
    cases hsame
    have htext : ("-w" ++ password).toList = '-' :: 'w' :: password.toList := by simp
    have hattach : s.short ('w' :: password.toList) = s.attach .password password := by
      rw [State.short, hletter]
      dsimp only
      split
      · next hempty => exact absurd (String.toList_eq_nil_iff.mp hempty) nonempty
      · next hequals => exact absurd (by rw [hequals]; rfl) equals
      · rw [String.ofList_toList]
    rw [State.read_letters hwaiting hdash htext, hattach] at hnext
    exact State.hasPassword_of_attach hnext
  | letterApart value =>
    obtain ⟨next, hnext, hrest⟩ := exists_of_bind_eq_ok hread
    obtain ⟨last, hlast, hsame⟩ := exists_of_bind_eq_ok hrest
    cases hsame
    have htext : "-w".toList = ['-', 'w'] := by decide
    rw [State.read_letters hwaiting hdash htext, State.short, hletter] at hnext
    exact State.hasPassword_of_await hnext value hlast

end WritesPassword

/-- A password on the command line is the one that counts, and the environment is not asked. -/
theorem GivesPassword.parse {password : String} {arguments : List String}
    (h : GivesPassword password arguments) (env : Environment) :
    (∀ o, parse env arguments = .ok o → o.password = some password) ∧
      ∀ other, CommandLine.parse other arguments = CommandLine.parse env arguments := by
  obtain @⟨before, written, after, hends, hwrites⟩ := h
  obtain ⟨hend, hwaiting⟩ := endsOption_iff.mp hends
  have hpassword : ∀ s, readAll {} (before ++ written ++ after) = .ok s →
      s.options.password = some password := by
    intro s hread
    rw [List.append_assoc, readAll_append hend] at hread
    obtain ⟨start, hstart, hrest⟩ := exists_of_bind_eq_ok hread
    rw [readAll_append hwrites.end_notMem] at hrest
    obtain ⟨next, hnext, hafter⟩ := exists_of_bind_eq_ok hrest
    exact password_of_readAll (hwrites.hasPassword (hwaiting start hstart) hnext) hafter
  cases hread : readAll {} (before ++ written ++ after) with
  | error fault =>
    have hparse := parse_of_readAll_error hread
    refine ⟨fun o ho => ?_, fun other => (hparse other).trans (hparse env).symm⟩
    rw [hparse env] at ho
    cases ho
  | ok s =>
    have hset := hpassword s hread
    have hgiven : s.options.password ≠ none := by simp [hset]
    have hparse : ∀ env, CommandLine.parse env _ = _ := fun _ =>
      parse_of_readAll hread (.inl hgiven)
    refine ⟨fun o ho => ?_, fun other => (hparse other).trans (hparse env).symm⟩
    rw [hparse env] at ho
    split at ho
    · cases ho
      exact hset
    · cases ho

end ServerLogin.CommandLine
