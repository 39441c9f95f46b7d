import ServerLogin.Proofs.RawArguments.RoundTrip

/-!
Credentials from raw arguments.  The arguments are interpreted when their numbers are
well formed and the last host that they give is one for which credentials are built;
that host has no blanks around it, so it is blank only when it is empty.
-/

namespace ServerLogin.RawArguments

open ServerLogin.Text ServerLogin.Number

/-- A value that is read has no blanks around it. -/
theorem trim_of_read {argument text : String} {key : Key}
    (h : read argument = .property key text) : trim text = text := by
  have hvalue : ∀ raw, trim (value raw) = value raw := by
    intro raw
    rw [trim, value, String.toList_ofList, trimChars_trimChars]
  simp only [read] at h
  split at h
  · cases h
  · split at h
    · cases h
    · split at h
      · cases h
      · cases h
        exact hvalue _

theorem valueFor?_eq_some_iff {key : Key} {argument text : String} :
    valueFor? key argument = some text ↔ read argument = .property key text := by
  rw [valueFor?]
  cases read argument with
  | skipped message => simp
  | property other value =>
    by_cases hkey : other = key
    · simp [hkey]
    · simp [hkey]

theorem mem_valuesFor_iff {key : Key} {arguments : List String} {text : String} :
    text ∈ valuesFor key arguments ↔ ∃ argument ∈ arguments, read argument = .property key text := by
  rw [valuesFor, List.mem_filterMap]
  simp only [valueFor?_eq_some_iff]

theorem trim_of_mem_valuesFor {key : Key} {arguments : List String} {text : String}
    (h : text ∈ valuesFor key arguments) : trim text = text := by
  obtain ⟨argument, _, hread⟩ := mem_valuesFor_iff.mp h
  exact trim_of_read hread

/-- The last host that arguments give, empty when there is none. -/
def lastHost (arguments : List String) : String := (valuesFor .host arguments).getLast?.getD ""

def lastPort (arguments : List String) : Option UInt16 := lastNumber uint16? .port arguments

theorem trim_lastHost (arguments : List String) : trim (lastHost arguments) = lastHost arguments := by
  rw [lastHost]
  cases hlast : (valuesFor .host arguments).getLast? with
  | none => rfl
  | some text => exact trim_of_mem_valuesFor (List.mem_of_getLast? hlast)

/-- The last host is blank only when it is empty. -/
theorem lastHost_blank_iff (arguments : List String) :
    (trimChars (lastHost arguments).toList).isEmpty = true ↔ lastHost arguments = "" := by
  have htrim : String.ofList (trimChars (lastHost arguments).toList) = lastHost arguments :=
    trim_lastHost arguments
  constructor
  · intro h
    rw [← htrim, List.isEmpty_iff.mp h]
  · intro h
    rw [h]
    rfl

theorem wellFormed_append {front back : List String} (hfront : WellFormed front)
    (hback : WellFormed back) : WellFormed (front ++ back) := by
  constructor
  · rw [valuesFor_append, List.forall_mem_append]
    exact ⟨hfront.port, hback.port⟩
  · rw [valuesFor_append, List.forall_mem_append]
    exact ⟨hfront.group, hback.group⟩

namespace Settings

theorem isSome_of_set_port {s t : Settings} {text : String} (h : s.set .port text = .ok t) :
    (uint16? text.toList).isSome := by
  simp only [set] at h
  split at h
  · next hnumber =>
    rw [hnumber]
    rfl
  · cases h

theorem isSome_of_set_group {s t : Settings} {text : String} (h : s.set .group text = .ok t) :
    (int64? text.toList).isSome := by
  simp only [set] at h
  split at h
  · next hnumber =>
    rw [hnumber]
    rfl
  · cases h

theorem wellFormed_of_add {s t : Settings} {argument : String}
    (h : (s.add argument).result = .ok t) : WellFormed [argument] := by
  have hset : ∀ {key text}, text ∈ valuesFor key [argument] → s.set key text = .ok t := by
    intro key text hmem
    obtain ⟨_, hargument, hread⟩ := mem_valuesFor_iff.mp hmem
    obtain rfl := List.mem_singleton.mp hargument
    rw [← add_property hread, h]
  constructor
  · intro text hmem
    exact isSome_of_set_port (hset hmem)
  · intro text hmem
    exact isSome_of_set_group (hset hmem)

theorem wellFormed_of_addAll {s t : Settings} {arguments : List String}
    (h : (s.addAll arguments).result = .ok t) : WellFormed arguments := by
  induction arguments generalizing s with
  | nil => exact ⟨List.forall_mem_nil _, List.forall_mem_nil _⟩
  | cons argument rest ih =>
    rw [addAll, Outcome.result_bind] at h
    cases hadd : (s.add argument).result with
    | error e =>
      rw [hadd] at h
      cases h
    | ok s' =>
      rw [hadd] at h
      exact wellFormed_append (wellFormed_of_add hadd) (ih h)

theorem credentials_eq_ok_iff {s : Settings} {c : Credentials} :
    s.credentials.result = .ok c ↔ s.host ≠ "" ∧ ∃ built,
      (Credentials.build s.login.username s.login.password s.host s.port).result = .ok built ∧
        c = { built with groupId := s.group.getD (-1) } := by
  by_cases hhost : s.host = ""
  · have hfail : s.credentials.result = .error (.invalidArgument .missingHost) := by
      rw [credentials, hhost]
      rfl
    simp [hfail, hhost]
  · rw [result_credentials hhost]
    cases (Credentials.build s.login.username s.login.password s.host s.port).result with
    | error e => simp [Except.map]
    | ok built =>
      constructor
      · intro h
        cases h
        exact ⟨hhost, built, rfl, rfl⟩
      · rintro ⟨_, _, hbuilt, rfl⟩
        cases hbuilt
        rfl

end Settings

/-- The credentials that arguments come to, if any. -/
theorem interpret_eq_ok_iff {arguments : List String} {c : Credentials} :
    (interpret arguments).result = .ok c ↔ WellFormed arguments ∧
      (Settings.lastValues {} arguments).credentials.result = .ok c := by
  rw [interpret, Outcome.result_bind]
  constructor
  · intro h
    cases hadd : (Settings.addAll {} arguments).result with
    | error e =>
      rw [hadd] at h
      cases h
    | ok s =>
      have hwell := Settings.wellFormed_of_addAll hadd
      rw [Settings.result_addAll hwell] at h
      exact ⟨hwell, h⟩
  · rintro ⟨hwell, h⟩
    rw [Settings.result_addAll hwell]
    exact h

/-- The credentials that arguments come to have their last host, which is not empty, a
port, and no arguments. -/
theorem fields_of_interpret {arguments : List String} {c : Credentials}
    (h : (interpret arguments).result = .ok c) :
    c.server.host = lastHost arguments ∧ lastHost arguments ≠ "" ∧
      (∃ port, c.server.port = some port) ∧ c.arguments = none := by
  obtain ⟨_, hcredentials⟩ := interpret_eq_ok_iff.mp h
  obtain ⟨hne, built, hbuilt, rfl⟩ := Settings.credentials_eq_ok_iff.mp hcredentials
  obtain ⟨server, port, hserver, _, rfl⟩ := Credentials.build_eq_ok_iff.mp hbuilt
  have hhost : server.host = lastHost arguments := Server.host_of_withHost? hserver
  exact ⟨hhost, hne, ⟨port, rfl⟩, rfl⟩

end ServerLogin.RawArguments
